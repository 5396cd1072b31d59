import Gallery.Http.Cors

namespace Gallery

@[simp] theorem Http.Header.fst_ofText (name value : String) :
    (Http.Header.ofText name value).1 = name := rfl

namespace Http.Response

variable (response : Response) (h : Header)

@[simp] theorem status_withHeader : (response.withHeader h).status = response.status := rfl

@[simp] theorem body_withHeader : (response.withHeader h).body = response.body := rfl

@[simp] theorem status_withDefault : (response.withDefault h).status = response.status := by
  unfold withDefault
  split <;> rfl

@[simp] theorem body_withDefault : (response.withDefault h).body = response.body := by
  unfold withDefault
  split <;> rfl

@[simp] theorem status_json (status : Nat) (value : Json.Value) :
    (json status value).status = status := rfl

@[simp] theorem body_json (status : Nat) (value : Json.Value) :
    (json status value).body = value.render.toUTF8 := rfl

@[simp] theorem status_mark (o : Origins) (r : Request) :
    (o.mark r response).status = response.status := rfl

@[simp] theorem body_mark (o : Origins) (r : Request) :
    (o.mark r response).body = response.body := rfl

-- Only the last header of a name that is put into a response stays.
theorem withHeader_withHeader {h' : Header} (hname : h'.1 = h.1) :
    (response.withHeader h').withHeader h = response.withHeader h := by
  simp only [withHeader, hname, List.filter_cons, List.filter_filter, ne_eq, not_true_eq_false,
    decide_false, Bool.false_eq_true, if_false, Bool.and_self]

-- The value of the first header of a name.
def header? (name : String) : Option (List UInt8) := response.headers.lookup name

variable {name : String}

theorem header?_withHeader_of_ne (hname : name ≠ h.1) :
    (response.withHeader h).header? name = response.header? name := by
  have hfilter : ∀ headers : List Header,
      (headers.filter (·.1 ≠ h.1)).lookup name = headers.lookup name := by
    intro headers
    induction headers with
    | nil => rfl
    | cons first rest ih =>
        by_cases hfirst : first.1 = h.1
        · have hne : name ≠ first.1 := hfirst ▸ hname
          rw [List.filter_cons_of_neg (by simpa using hfirst), ih, List.lookup_cons,
            beq_false_of_ne hne]
        · rw [List.filter_cons_of_pos (by simpa using hfirst), List.lookup_cons,
            List.lookup_cons, ih]
  rw [header?, withHeader, List.lookup_cons, beq_false_of_ne hname]
  exact hfilter response.headers

theorem header?_withDefault_of_ne (hname : name ≠ h.1) :
    (response.withDefault h).header? name = response.header? name := by
  unfold withDefault
  split
  · rfl
  · exact response.header?_withHeader_of_ne h hname

-- What is said about other origins is no header that a response has for itself.
theorem header?_mark_of_ne (o : Origins) (r : Request)
    (hexpose : name ≠ "access-control-expose-headers") (hvary : name ≠ "vary")
    (horigin : name ≠ "access-control-allow-origin") :
    (o.mark r response).header? name = response.header? name := by
  unfold header? Origins.mark Origins.common
  cases o.allowed? r with
  | none =>
      simp [Origins.vary, Header.ofText, List.lookup_cons, beq_false_of_ne, hexpose, hvary]
  | some origin =>
      simp [Origins.vary, Header.ofText, List.lookup_cons, beq_false_of_ne, hexpose, hvary, horigin]

end Http.Response

end Gallery
