import Gallery.Proofs.Address
import Gallery.Proofs.Store.FileTree.Changes
import Gallery.Proofs.Uuid
import Gallery.Store.Files

namespace Gallery

open FileTree (ProperName)

-- The names on the way from the base of a store of files to a folder, and to an image.
def FolderAddress.names (a : FolderAddress) : FilePath :=
  [Text.utf8 a.owner.text, Text.utf8 a.folder.text]

def ImageAddress.names (a : ImageAddress) : FilePath := a.parent.names ++ [Text.utf8 a.name.text]

theorem Segment.properName {role : Coordinate} (s : Segment role) :
    ProperName (Text.utf8 s.text) :=
  ⟨s.utf8_ne_of_hidden rfl, s.length_utf8_le⟩

theorem FolderAddress.properName (a : FolderAddress) : ∀ n ∈ a.names, ProperName n := by
  intro n hn
  simp only [names, List.mem_cons, List.not_mem_nil, or_false] at hn
  rcases hn with rfl | rfl <;> exact Segment.properName _

theorem ImageAddress.properName (a : ImageAddress) : ∀ n ∈ a.names, ProperName n := by
  intro n hn
  rcases List.mem_append.mp hn with hn | hn
  · exact a.parent.properName n hn
  · rw [List.mem_singleton.mp hn]
    exact Segment.properName _

theorem ImageAddress.names_injective : Function.Injective ImageAddress.names := by
  rintro ⟨o, f, n⟩ ⟨o', f', n'⟩ h
  simp only [names, parent, FolderAddress.names, List.cons_append, List.nil_append,
    List.cons.injEq, and_true] at h
  obtain ⟨ho, hf, hn⟩ := h
  rw [Segment.text_injective (Text.utf8_injective ho),
    Segment.text_injective (Text.utf8_injective hf),
    Segment.text_injective (Text.utf8_injective hn)]

-- No image is at a place whose name begins with a full stop.
theorem ImageAddress.names_ne_of_hidden (a : ImageAddress) (folder : FolderAddress)
    {name : FileName} (h : name.head? = some 46) : a.names ≠ folder.names ++ [name] := by
  intro hnames
  have hlast := congrArg List.getLast? hnames
  simp only [names, List.getLast?_append, List.getLast?_singleton, Option.some_or,
    Option.some.injEq] at hlast
  exact a.name.utf8_ne_of_hidden h hlast

@[simp] theorem ImageAddress.length_names (a : ImageAddress) : a.names.length = 3 := rfl

@[simp] theorem FolderAddress.length_names (a : FolderAddress) : a.names.length = 2 := rfl

namespace FileStore

private theorem keyPieces_of_splitOn {key : String} (words : List String)
    (h : key.toList.splitOn '/' = words.map String.toList) :
    keyPieces key = words.filter (!·.isEmpty) := by
  rw [keyPieces, h, List.map_map]
  congr 1
  conv_rhs => rw [← List.map_id words]
  apply List.map_congr_left
  intro word _
  exact String.ofList_toList

private theorem isEmpty_text {role : Coordinate} (s : Segment role) : s.text.isEmpty = false := by
  rw [String.isEmpty_eq_false_iff]
  exact s.text_ne_empty

theorem keyPieces_key (a : ImageAddress) :
    keyPieces a.key = [a.owner.text, a.folder.text, a.name.text] := by
  rw [keyPieces_of_splitOn [a.owner.text, a.folder.text, a.name.text] a.splitOn_key]
  simp [isEmpty_text]

theorem keyPieces_keyStart (a : FolderAddress) :
    keyPieces a.keyStart = [a.owner.text, a.folder.text] := by
  rw [keyPieces_of_splitOn [a.owner.text, a.folder.text, ""] a.splitOn_keyStart]
  simp [isEmpty_text]

-- What begins with a word does not begin with a separator.
theorem head?_word_append_ne_slash {word : String} (hfilled : word ≠ "")
    (hslash : '/' ∉ word.toList) (rest : List Char) :
    (word.toList ++ rest).head? ≠ some '/' := by
  cases hword : word.toList with
  | nil => exact absurd (String.toList_eq_nil_iff.mp hword) hfilled
  | cons c cs =>
      rw [List.cons_append, List.head?_cons, ne_eq, Option.some.injEq]
      rintro rfl
      exact hslash (by simp [hword])

private theorem nul_not_mem {role : Coordinate} (s : Segment role) : '\x00' ∉ s.text.toList :=
  s.not_mem_of_not_allowed (by decide)

theorem keyStaysInside_key (a : ImageAddress) : keyStaysInside a.key = true := by
  have hhead := head?_word_append_ne_slash a.owner.text_ne_empty a.owner.slash_not_mem
    ('/' :: (a.folder.text.toList ++ '/' :: a.name.text.toList))
  have hnul : a.key.toList.contains '\x00' = false := by
    simp [a.toList_key, nul_not_mem]
  rw [← a.toList_key] at hhead
  rw [keyStaysInside, a.hasTraversal_key, hnul, decide_eq_true hhead]
  rfl

theorem keyStaysInside_keyStart (a : FolderAddress) : keyStaysInside a.keyStart = true := by
  have hhead := head?_word_append_ne_slash a.owner.text_ne_empty a.owner.slash_not_mem
    ('/' :: (a.folder.text.toList ++ '/' :: []))
  have hnul : a.keyStart.toList.contains '\x00' = false := by
    simp [a.toList_keyStart, nul_not_mem]
  rw [← a.toList_keyStart] at hhead
  rw [keyStaysInside, a.hasTraversal_keyStart, hnul, decide_eq_true hhead]
  rfl

theorem locateKey_key (a : ImageAddress) :
    locateKey a.key = .ok [a.owner.text, a.folder.text, a.name.text] := by
  rw [locateKey, if_pos (keyStaysInside_key a), keyPieces_key]

theorem locateKey_keyStart (a : FolderAddress) :
    locateKey a.keyStart = .ok [a.owner.text, a.folder.text] := by
  rw [locateKey, if_pos (keyStaysInside_keyStart a), keyPieces_keyStart]

theorem path_parent (s : FileStore) (a : ImageAddress) :
    s.path [a.owner.text, a.folder.text] = FilePath.ofString s.base ++ a.parent.names := rfl

-- The hidden file is a name like any other for the file system, but no image can be called so.
theorem properName_hiddenName (random : Uuid) : ProperName (Text.utf8 (hiddenName random)) := by
  have hdot : Text.utf8 "." = [46] := by decide +kernel
  have htmp : Text.utf8 ".tmp" = [46, 116, 109, 112] := by decide +kernel
  have hdigits := Text.length_utf8_ofList_le random.digits
  have hlength : random.digits.length = 32 := by
    simp only [Uuid.digits, List.length_append, Uuid.length_wordDigits]
  rw [hiddenName, Text.utf8_append, Text.utf8_append, hdot, htmp]
  constructor
  · intro habove
    have := congrArg List.length habove
    simp [FilePath.above] at this
  · simp only [List.length_append, List.length_cons, List.length_nil, FileTree.maxName]
    omega

theorem head?_utf8_hiddenName (random : Uuid) :
    (Text.utf8 (hiddenName random)).head? = some 46 := by
  have hdot : Text.utf8 "." = [46] := by decide +kernel
  rw [hiddenName, Text.utf8_append, Text.utf8_append, hdot]
  rfl

theorem utf8_name_ne_hiddenName (name : ImageName) (random : Uuid) :
    Text.utf8 name.text ≠ Text.utf8 (hiddenName random) :=
  name.utf8_ne_of_hidden (head?_utf8_hiddenName random)

end FileStore

end Gallery
