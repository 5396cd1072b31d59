import Gallery.Http.ErrorReport
import Gallery.Proofs.Settings.Origins
import Gallery.Store.Basic

-- What responses to errors keep to themselves. Errors that look alike from outside get the same
-- response wherever their details are kept: where the service is in use by its clients, which its
-- responses and its settings always agree on, and for errors of the service itself anywhere.

namespace Gallery

open Http

section Place

variable (env : Environment)

theorem isProductionName_iff (name : String) :
    isProductionName name = true ↔ Text.lower name = "production" ∨ Text.lower name = "prod" := by
  simp [isProductionName]

theorem Environment.isProduction_iff :
    env.isProduction = true ↔
      ∃ name, (env.get? "ENVIRONMENT").or (env.get? "APP_ENV") = some name ∧
        (Text.lower name = "production" ∨ Text.lower name = "prod") := by
  simp only [isProduction, Option.any_eq_true, isProductionName_iff]
  rfl

theorem lookup_filterMap {α β : Type} (f : String → Option β) (given : List (String × α))
    (name : String) :
    (given.filterMap fun (n, _) => (f n).map (n, ·)).lookup name =
      (given.lookup name).bind fun _ => f name := by
  induction given with
  | nil => rfl
  | cons first rest ih =>
      obtain ⟨n, a⟩ := first
      by_cases hname : name = n
      · subst hname
        cases hf : f name with
        | none => simp [hf, ih]
        | some b => simp [hf]
      · have hne : (name == n) = false := beq_false_of_ne hname
        cases hf : f n <;> simp [hf, ih, List.lookup_cons, hne]

-- A variable has the text that its value is, if it is one.
theorem Environment.get?_ofValues (values : List (String × List UInt8)) (name : String) :
    (ofValues values).get? name =
      (values.lookup name).bind fun bytes => Text.ofUtf8? ⟨bytes.toArray⟩ := by
  rw [get?, ofValues, lookup_filterMap fun name =>
    (values.lookup name).bind fun bytes => Text.ofUtf8? ⟨bytes.toArray⟩]
  cases values.lookup name <;> rfl

theorem Settings.ReadFrom.isProduction_eq {s : Settings} (h : s.ReadFrom env) :
    env.isProduction = s.isProduction := by
  rw [Settings.isProduction, h.place, Environment.isProduction]
  cases env.placeName? with
  | none => decide +kernel
  | some name => rfl

end Place

namespace ServiceError

-- Errors that look alike from outside: they are of one kind, and a client is told the same.
structure Alike (e e' : ServiceError) : Prop where
  kind : e.kind = e'.kind
  clientMessage : e.clientMessage = e'.clientMessage

variable {e e' : ServiceError}

theorem Alike.presentation (h : e.Alike e') : e.presentation = e'.presentation := by
  have hkind := h.kind
  cases e <;> cases e' <;> first | rfl | exact absurd hkind (ne_of_beq_false rfl)

-- What went wrong with an error is kept from clients.
def Kept (inProduction : Bool) (e : ServiceError) : Prop :=
  inProduction = true ∨ e.presentation.sensitive = true

-- An error of the service itself that nobody expected, with or without what led to it.
inductive Unexpected : ServiceError → Prop where
  | internal (reason : String) : Unexpected (.internal reason)
  | internalWithCauses (reason : String) (causes : List String) :
      Unexpected (.internalWithCauses reason causes)

theorem Unexpected.alike (h : e.Unexpected) (h' : e'.Unexpected) : e.Alike e' := by
  cases h <;> cases h' <;> exact ⟨rfl, rfl⟩

theorem Unexpected.kept (h : e.Unexpected) (inProduction : Bool) : e.Kept inProduction := by
  cases h <;> exact Or.inr rfl

end ServiceError

namespace StoreError

-- A failure of the store itself, in contrast to an image that it does not have or a key that it
-- cannot have.
inductive Failure : StoreError → Prop where
  | corrupt (reason : String) : Failure (.corrupt reason)
  | backend (reason : String) : Failure (.backend reason)
  | system (cause : SystemError) : Failure (.system cause)
  | configuration (reason : String) : Failure (.configuration reason)

variable {e e' : StoreError}

theorem Failure.toServiceError_eq (h : e.Failure) :
    e.toServiceError = .storeUnavailable e.message := by
  cases h <;> rfl

theorem Failure.alike (h : e.Failure) (h' : e'.Failure) :
    e.toServiceError.Alike e'.toServiceError := by
  rw [h.toServiceError_eq, h'.toServiceError_eq]
  exact ⟨rfl, rfl⟩

theorem Failure.kept (h : e.Failure) (inProduction : Bool) :
    e.toServiceError.Kept inProduction := by
  rw [h.toServiceError_eq]
  exact Or.inr rfl

end StoreError

namespace Http.Response

open ServiceError

variable {inProduction inProduction' : Bool} {e e' : ServiceError}

-- The body says what a client may know, and nothing else.
theorem ofError_of_kept (h : e.Kept inProduction) :
    ∃ action, e.presentation.action = some action ∧
      ofError inProduction e = .json e.presentation.status (.object
        [("error", .text e.clientMessage), ("code", .text e.presentation.code),
          ("recoverable", .boolean e.presentation.recoverable),
          ("suggested_action", .text action)]) := by
  have haction : ∃ action, e.presentation.action = some action := by
    cases e <;> exact ⟨_, rfl⟩
  obtain ⟨action, haction⟩ := haction
  have htold : (!inProduction && !e.presentation.sensitive) = false := by
    rcases h with h | h <;> simp [h]
  refine ⟨action, haction, ?_⟩
  simp [ofError, ErrorReport.of, ErrorReport.toJson, htold, haction, Json.Value.optional]

theorem ofError_eq_of_alike (h : e.Alike e') (hkept : e.Kept inProduction)
    (hkept' : e'.Kept inProduction') : ofError inProduction e = ofError inProduction' e' := by
  obtain ⟨action, haction, hresponse⟩ := ofError_of_kept hkept
  obtain ⟨action', haction', hresponse'⟩ := ofError_of_kept hkept'
  rw [h.presentation, haction', Option.some.injEq] at haction
  rw [hresponse, hresponse', h.presentation, h.clientMessage, haction]

-- Errors do not leak. Whatever the environments are, all failures of the store get one response,
-- and so do all unexpected errors. If settings are read, responses and settings agree on whether the
-- service is in use by its clients: whether the first of two variables that has a text is a name of
-- such a place, in letters of either case. Then no body has details, and what led to an error
-- changes nothing.
theorem errors_keep_details :
    (∀ (env env' : Environment) (e e' : StoreError), e.Failure → e'.Failure →
      ofError env.isProduction e.toServiceError = ofError env'.isProduction e'.toServiceError) ∧
    (∀ (env env' : Environment) (e e' : ServiceError), e.Unexpected → e'.Unexpected →
      ofError env.isProduction e = ofError env'.isProduction e') ∧
    (∀ (env : Environment) (file : Option String) (s : Settings),
      Settings.ofEnvironment (env.withDefaults file) = .ok s →
        (env.withDefaults file).isProduction = s.isProduction ∧
        (s.isProduction = true →
          (∀ e : ServiceError, ∃ action, e.presentation.action = some action ∧
            ofError (env.withDefaults file).isProduction e = .json e.presentation.status (.object
              [("error", .text e.clientMessage), ("code", .text e.presentation.code),
                ("recoverable", .boolean e.presentation.recoverable),
                ("suggested_action", .text action)])) ∧
          ∀ e e' : ServiceError, e.kind = e'.kind → e.clientMessage = e'.clientMessage →
            ofError (env.withDefaults file).isProduction e =
              ofError (env.withDefaults file).isProduction e')) ∧
    (∀ env : Environment, env.isProduction = true ↔
      ∃ name, (env.get? "ENVIRONMENT").or (env.get? "APP_ENV") = some name ∧
        (Text.lower name = "production" ∨ Text.lower name = "prod")) ∧
    ∀ values name, (Environment.ofValues values).get? name =
      (values.lookup name).bind fun bytes => Text.ofUtf8? ⟨bytes.toArray⟩ := by
  refine ⟨fun env env' e e' h h' => ?_, fun env env' e e' h h' => ?_, fun env file s hread => ?_,
    Environment.isProduction_iff, Environment.get?_ofValues⟩
  · exact ofError_eq_of_alike (h.alike h') (h.kept _) (h'.kept _)
  · exact ofError_eq_of_alike (h.alike h') (h.kept _) (h'.kept _)
  · have hplace := (Settings.readFrom_of_ofEnvironment hread).isProduction_eq
    refine ⟨hplace, fun hproduction => ?_⟩
    have hkept : ∀ e : ServiceError, e.Kept (env.withDefaults file).isProduction :=
      fun _ => Or.inl (hplace.trans hproduction)
    exact ⟨fun e => ofError_of_kept (hkept e),
      fun e e' hkind hmessage => ofError_eq_of_alike ⟨hkind, hmessage⟩ (hkept e) (hkept e')⟩

-- A process where one of the two variables has no text, and the other one a name in capitals.
def capitalEnvironment : Environment :=
  .ofValues [("ENVIRONMENT", [255]), ("APP_ENV", Text.utf8 "PROD"),
    ("CORS_ORIGINS", Text.utf8 "https://a.example"), ("JWT_SECRET", Text.utf8 "secret")]

theorem errors_keep_details_in_capital_environment :
    let env := capitalEnvironment.withDefaults (some "MASTER_API_KEY=key")
    let s := { Settings.inProduction ["https://a.example"] with place := "PROD" }
    Settings.ofEnvironment env = .ok s ∧ env.isProduction = true ∧
      ofError env.isProduction (.internalWithCauses "outer" ["inner"]) =
        ofError env.isProduction (.internal "other") ∧
      ofError env.isProduction (.internalWithCauses "outer" ["inner"]) =
        ofError false (.internal "other") ∧
      ofError env.isProduction (StoreError.corrupt "cut off").toServiceError =
        ofError false (StoreError.system .noEntry).toServiceError := by
  intro env s
  obtain ⟨hfailures, hunexpected, hproduction, _⟩ := errors_keep_details
  have hread : Settings.ofEnvironment env = .ok s :=
    Except.eq_ok_of_toOption_eq_some (by decide +kernel)
  have hplace : s.isProduction = true := by decide +kernel
  obtain ⟨hagree, hkept⟩ := hproduction capitalEnvironment (some "MASTER_API_KEY=key") s hread
  exact ⟨hread, hagree.trans hplace, (hkept hplace).2 _ _ rfl rfl,
    hunexpected env ⟨[]⟩ _ _ (.internalWithCauses _ _) (.internal _),
    hfailures env ⟨[]⟩ _ _ (.corrupt _) (.system _)⟩

end Http.Response

end Gallery
