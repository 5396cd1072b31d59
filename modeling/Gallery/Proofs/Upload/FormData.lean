import Gallery.Upload.FormData
import Mathlib.Data.List.Nodup
import Mathlib.Data.List.Perm.Basic

-- Forms in parts are read by the names of the parts. Only three names count, and what is read
-- depends on the parts of these names alone, in their order; for two of the names on the last part
-- alone.

namespace Gallery

namespace Http

-- A part that is well-formed: what its headers say, and its content.
abbrev Part := PartHead × List UInt8

-- What comes after some well-formed parts, with these in front.
def Parts.after (parts : List Part) (rest : Parts) : Parts :=
  match parts with
  | [] => rest
  | first :: more => .part first.1 first.2 (rest.after more)

theorem Parts.ofList_eq (parts : List Part) : ofList parts = done.after parts := by
  induction parts with
  | nil => rfl
  | cons first more ih => rw [ofList, after, ih]

end Http

namespace UploadForm

open Http

-- The names that count.
def fieldNames : List String := ["folder", "name", "image"]

def named (field : String) (parts : List Part) : List Part := parts.filter (·.1.name = some field)

variable (wide : Text.WideReader)

-- The text of the last part of a name.
def lastText (field : String) (parts : List Part) : Option String :=
  (named field parts).getLast?.map fun part => partText wide part.1 part.2

variable (field : String) (parts more : List Part) (part : Part)

theorem named_append : named field (parts ++ more) = named field parts ++ named field more :=
  List.filter_append ..

theorem named_snoc :
    named field (parts ++ [part]) =
      if part.1.name = some field then named field parts ++ [part] else named field parts := by
  rw [named_append]
  by_cases hname : part.1.name = some field
  · have hlast : named field [part] = [part] := List.filter_cons_of_pos (by simpa using hname)
    rw [if_pos hname, hlast]
  · have hlast : named field [part] = [] := List.filter_cons_of_neg (by simpa using hname)
    rw [if_neg hname, hlast, List.append_nil]

theorem lastText_snoc :
    lastText wide field (parts ++ [part]) =
      if part.1.name = some field then some (partText wide part.1 part.2)
      else lastText wide field parts := by
  rw [lastText, named_snoc]
  by_cases hname : part.1.name = some field
  · rw [if_pos hname, if_pos hname, List.getLast?_concat, Option.map_some]
  · rw [if_neg hname, if_neg hname, lastText]

-- What has been gathered when some parts have been read.
def Draft.of (parts : List Part) : Draft where
  folder := lastText wide "folder" parts
  name := lastText wide "name" parts
  image := (named "image" parts).head?.map fun part => partImage part.1 part.2

theorem isSome_image_of : (Draft.of wide parts).image.isSome = !(named "image" parts).isEmpty := by
  simp only [Draft.of]
  cases named "image" parts <;> rfl

-- One part more is gathered, unless it is another image.
theorem take_of :
    (Draft.of wide parts).take wide part.1 part.2 =
      if part.1.name = some "image" ∧ named "image" parts ≠ [] then .error .secondImage
      else .ok (Draft.of wide (parts ++ [part])) := by
  unfold Draft.take
  split
  · rename_i hname
    simp [Draft.of, lastText_snoc, named_snoc, hname]
  · rename_i hname
    simp [Draft.of, lastText_snoc, named_snoc, hname]
  · rename_i hname
    cases himages : named "image" parts with
    | nil => simp [Draft.of, lastText_snoc, named_snoc, hname, himages]
    | cons first rest => simp [Draft.of, himages, hname]
  · rename_i hfolder hname himage
    replace hfolder : part.1.name ≠ some "folder" := hfolder
    replace hname : part.1.name ≠ some "name" := hname
    replace himage : part.1.name ≠ some "image" := himage
    simp [Draft.of, lastText_snoc, named_snoc, hfolder, hname, himage]

-- Parts are gathered one after the other as long as there is one image among them at most.
theorem takeAll_of_after (rest : Parts) (before : List Part)
    (hone : (named "image" before).length ≤ 1) :
    (Draft.of wide before).takeAll wide (rest.after parts) =
      if (named "image" (before ++ parts)).length ≤ 1 then
        (Draft.of wide (before ++ parts)).takeAll wide rest
      else .error .secondImage := by
  induction parts generalizing before with
  | nil => rw [Parts.after, List.append_nil, if_pos hone]
  | cons part more ih =>
    rw [Parts.after, Draft.takeAll, take_of, List.append_cons before part more]
    by_cases hsecond : part.1.name = some "image" ∧ named "image" before ≠ []
    · obtain ⟨hname, hfilled⟩ := hsecond
      have hbefore : 0 < (named "image" before).length := List.length_pos_of_ne_nil hfilled
      have hmany : ¬(named "image" (before ++ [part] ++ more)).length ≤ 1 := by
        rw [named_append, named_snoc, if_pos hname, List.length_append, List.length_append,
          List.length_singleton]
        omega
      rw [if_pos ⟨hname, hfilled⟩, if_neg hmany]
    · have hsnoc : (named "image" (before ++ [part])).length ≤ 1 := by
        rw [named_snoc]
        by_cases hname : part.1.name = some "image"
        · have hnone : named "image" before = [] := not_and_not_right.mp hsecond hname
          rw [if_pos hname, hnone]
          exact Nat.le_refl 1
        · rw [if_neg hname]
          exact hone
      rw [if_neg hsecond]
      exact ih _ hsnoc

theorem ofParts_after (rest : Parts) :
    ofParts wide (rest.after parts) =
      if (named "image" parts).length ≤ 1 then (Draft.of wide parts).takeAll wide rest
      else .error .secondImage :=
  takeAll_of_after wide parts rest [] (Nat.zero_le 1)

-- Nothing counts but the parts of the names that count, in their order for each of the names.
theorem ofParts_after_congr (rest : Parts) {parts parts' : List Part}
    (h : ∀ field ∈ fieldNames, named field parts = named field parts') :
    ofParts wide (rest.after parts) = ofParts wide (rest.after parts') := by
  have hfolder := h "folder" (by decide)
  have hname := h "name" (by decide)
  have himage := h "image" (by decide)
  rw [ofParts_after, ofParts_after, Draft.of, Draft.of, lastText, lastText, lastText, lastText,
    hfolder, hname, himage]

-- What well-formed parts come to, by the number of images among them.
theorem ofParts_ofList :
    ofParts wide (.ofList parts) =
      match named "image" parts with
      | [] => .error .noImage
      | [image] =>
        .ok ⟨lastText wide "folder" parts, lastText wide "name" parts, partImage image.1 image.2⟩
      | _ :: _ :: _ => .error .secondImage := by
  rw [Parts.ofList_eq, ofParts_after]
  cases himages : named "image" parts with
  | nil => simp [Draft.takeAll, Draft.of, himages]
  | cons image more =>
    cases more with
    | nil => simp [Draft.takeAll, Draft.of, himages]
    | cons second more => simp

-- A form that gives the texts of the last folder and the last name, and the one image.
structure GatheredFrom (form : UploadForm) (parts : List Part) : Prop where
  folder : form.folder = lastText wide "folder" parts
  name : form.name = lastText wide "name" parts
  image : ∃ head content, named "image" parts = [(head, content)] ∧
    form.payload = .multipart ⟨content.toArray⟩ (head.mediaType.map (·.written))

theorem ofParts_ofList_eq_ok_iff (form : UploadForm) :
    ofParts wide (.ofList parts) = .ok form ↔ form.GatheredFrom wide parts := by
  rw [ofParts_ofList]
  constructor
  · intro h
    split at h
    · cases h
    · rename_i image himage
      cases h
      exact ⟨rfl, rfl, image.1, image.2, himage, rfl⟩
    · cases h
  · obtain ⟨folder, name, payload⟩ := form
    rintro ⟨rfl, rfl, head, content, himage, rfl⟩
    rw [himage]
    rfl

theorem exists_gatheredFrom_iff :
    (∃ form : UploadForm, form.GatheredFrom wide parts) ↔ (named "image" parts).length = 1 := by
  rw [List.length_eq_one_iff]
  constructor
  · rintro ⟨_, _, _, head, content, himage, _⟩
    exact ⟨(head, content), himage⟩
  · rintro ⟨image, himage⟩
    exact ⟨⟨_, _, _⟩, rfl, rfl, image.1, image.2, himage, rfl⟩

-- A second image ends the reading, whatever its content is and whatever comes after it.
theorem ofParts_second_image {before : List Part} {head : PartHead}
    (hone : (named "image" before).length = 1) (hname : head.name = some "image") :
    ofParts wide ((Parts.cut head).after before) = .error .secondImage ∧
      ∀ content rest, ofParts wide ((Parts.part head content rest).after before) =
        .error .secondImage := by
  have hfilled : named "image" before ≠ [] := List.ne_nil_of_length_eq_add_one hone
  constructor
  · rw [ofParts_after, if_pos (Nat.le_of_eq hone), Draft.takeAll, isSome_image_of, if_pos]
    exact ⟨hname, by simpa using hfilled⟩
  · intro content rest
    rw [ofParts_after, if_pos (Nat.le_of_eq hone), Draft.takeAll, take_of wide before (head, content),
      if_pos ⟨hname, hfilled⟩]

-- That there is no image is said when all parts have been read and nothing is wrong with them.
theorem ofParts_no_image {parts : List Part} (hnone : named "image" parts = []) :
    ofParts wide (.ofList parts) = .error .noImage ∧
      (∀ e, ofParts wide ((Parts.failed e).after parts) = .error (.parts e)) ∧
      ∀ head, ofParts wide ((Parts.cut head).after parts) =
        .error (.parts (.incompletePart head.name)) := by
  have hfew : (named "image" parts).length ≤ 1 := by rw [hnone]; exact Nat.zero_le 1
  refine ⟨by rw [ofParts_ofList, hnone], fun e => ?_, fun head => ?_⟩
  · rw [ofParts_after, if_pos hfew, Draft.takeAll]
  · rw [ofParts_after, if_pos hfew, Draft.takeAll, isSome_image_of, hnone, if_neg (by simp)]

-- The name of a part is one that counts.
def isRead (part : Part) : Bool := part.1.name.any (fieldNames.contains ·)

theorem named_filter_isRead {field : String} (h : field ∈ fieldNames) :
    named field (parts.filter isRead) = named field parts := by
  rw [named, List.filter_filter, named]
  congr 1
  funext part
  by_cases hname : part.1.name = some field
  · simp [isRead, hname, h]
  · simp [hname]

-- The names that count among those of some parts.
def namesRead (parts : List Part) : List String :=
  (parts.filterMap (·.1.name)).filter (fieldNames.contains ·)

theorem length_named {field : String} (h : field ∈ fieldNames) :
    (named field parts).length = (namesRead parts).count field := by
  rw [namesRead, List.count_filter (by simpa using h), List.count, List.countP_filterMap, named,
    ← List.countP_eq_length_filter]
  congr 1
  funext part
  cases part.1.name with
  | none => simp
  | some name => simp [beq_eq_decide]

theorem named_eq_of_perm {parts parts' : List Part} {field : String}
    (hperm : parts.Perm parts') (hdistinct : (namesRead parts).Nodup) (h : field ∈ fieldNames) :
    named field parts = named field parts' := by
  have hfew : (named field parts).length ≤ 1 := by
    rw [length_named parts h]
    exact List.nodup_iff_count_le_one.mp hdistinct field
  have hnamed : (named field parts).Perm (named field parts') := hperm.filter _
  cases hlist : named field parts with
  | nil =>
    rw [hlist] at hnamed
    exact hnamed.nil_eq
  | cons part more =>
    rw [hlist, List.length_cons] at hfew
    have hmore : more = [] := List.length_eq_zero_iff.mp (by omega)
    rw [hlist, hmore] at hnamed
    rw [hmore, List.singleton_perm.mp hnamed]

-- A form in well-formed parts is read if one of them is the image, no matter where it stands: the
-- form has the texts of the last folder and of the last name, and the content and the type of the
-- image. A second image is refused where it begins, and that there is none is said at the end of
-- all parts. Parts of other names or of none change nothing, and neither does the order of parts
-- whose names are different, wherever they stand.
theorem forms_gathered_from_parts :
    (∀ parts form, ofParts wide (.ofList parts) = .ok form ↔ form.GatheredFrom wide parts) ∧
    (∀ parts, (∃ form, ofParts wide (.ofList parts) = .ok form) ↔
      (named "image" parts).length = 1) ∧
    (∀ before (head : PartHead), (named "image" before).length = 1 → head.name = some "image" →
      ofParts wide ((Parts.cut head).after before) = .error .secondImage ∧
      ∀ content rest, ofParts wide ((Parts.part head content rest).after before) =
        .error .secondImage) ∧
    (∀ parts, named "image" parts = [] →
      ofParts wide (.ofList parts) = .error .noImage ∧
      (∀ e, ofParts wide ((Parts.failed e).after parts) = .error (.parts e)) ∧
      ∀ head, ofParts wide ((Parts.cut head).after parts) =
        .error (.parts (.incompletePart head.name))) ∧
    (∀ (parts parts' : List Part) (rest : Parts), parts.filter isRead = parts'.filter isRead →
      ofParts wide (rest.after parts) = ofParts wide (rest.after parts')) ∧
    ∀ (before parts parts' : List Part) (rest : Parts), parts.Perm parts' →
      (namesRead parts).Nodup →
      ofParts wide (rest.after (before ++ parts)) = ofParts wide (rest.after (before ++ parts')) := by
  refine ⟨ofParts_ofList_eq_ok_iff wide, fun parts => ?_, fun _ _ => ofParts_second_image wide,
    fun _ => ofParts_no_image wide, fun parts parts' rest hread => ?_,
    fun before parts parts' rest hperm hdistinct => ?_⟩
  · simp only [ofParts_ofList_eq_ok_iff, exists_gatheredFrom_iff]
  · refine ofParts_after_congr wide rest fun field hfield => ?_
    rw [← named_filter_isRead parts hfield, hread, named_filter_isRead parts' hfield]
  · refine ofParts_after_congr wide rest fun field hfield => ?_
    rw [named_append, named_append, named_eq_of_perm hperm hdistinct hfield]

-- A part with a text, one with bytes of a set with several a character, and one with an image.
def textPart (name text : String) : Part := (⟨some name, none⟩, Text.utf8 text)

def gbkPart (name : String) (content : List UInt8) : Part :=
  (⟨some name, some ⟨"text", "plain", none, [("charset", "gbk")], "text/plain; charset=gbk"⟩⟩,
    content)

def gifPart : Part := (⟨some "image", some ⟨"image", "gif", none, [], "image/gif"⟩⟩, [71, 73, 70])

-- A reader that knows a single character.
def readYou : Text.WideReader := fun set bytes =>
  if set = .gbk ∧ bytes = [0xc4, 0xe3] then "你" else "\ufffd"

theorem form_gathered_around_gif :
    let form : UploadForm := ⟨some "new", some "你", .multipart ⟨#[71, 73, 70]⟩ (some "image/gif")⟩
    let name := gbkPart "name" [0xc4, 0xe3]
    let parts := [name, textPart "folder" "old", gifPart, textPart "folder" "new"]
    ofParts readYou (.ofList parts) = .ok form ∧
      ofParts readYou (.ofList (textPart "tags" "x" :: parts)) = .ok form ∧
      ofParts readYou (.ofList [name, textPart "folder" "old", textPart "folder" "new", gifPart]) =
        .ok form ∧
      ofParts readYou (.ofList (parts ++ [gifPart])) = .error .secondImage ∧
      ofParts readYou (.ofList [textPart "folder" "old"]) = .error .noImage := by
  intro form name parts
  obtain ⟨hgathered, _, hsecond, hnone, hfilter, hperm⟩ := forms_gathered_from_parts readYou
  have hform : ofParts readYou (.ofList parts) = .ok form :=
    (hgathered _ _).mpr ⟨by decide +kernel, by decide +kernel, gifPart.1, gifPart.2, rfl, rfl⟩
  have htags := hfilter (textPart "tags" "x" :: parts) parts .done rfl
  have hswapped := hperm [name, textPart "folder" "old"] [textPart "folder" "new", gifPart]
    [gifPart, textPart "folder" "new"] .done (.swap _ _ _) (by decide)
  exact ⟨hform, htags.trans hform, hswapped.trans hform, (hsecond parts gifPart.1 rfl rfl).2 _ _,
    (hnone _ rfl).1⟩

end UploadForm

end Gallery
