import Gallery.Proofs.Store.FileTree.Spelling
import Gallery.Proofs.Store.Files.Listing

-- The paths of keys stay below the base.

namespace Gallery

namespace FileStore

section Keys

variable {key piece : String}

theorem keyStaysInside_iff :
    keyStaysInside key = true ↔
      ¬['.', '.'] <:+: key.toList ∧ key.toList.head? ≠ some '/' ∧ '\x00' ∉ key.toList := by
  rw [keyStaysInside, ← Segment.hasTraversal_iff_infix]
  simp [and_assoc]

theorem locateKey_eq_ok_iff {pieces : List String} :
    locateKey key = .ok pieces ↔ keyStaysInside key = true ∧ pieces = keyPieces key := by
  rw [locateKey]
  by_cases hinside : keyStaysInside key = true
  · rw [if_pos hinside, Except.ok.injEq]
    exact ⟨fun h => ⟨hinside, h.symm⟩, fun h => h.2.symm⟩
  · rw [if_neg hinside]
    exact ⟨fun h => (by cases h), fun h => absurd h.1 hinside⟩

theorem toList_keyPieces (key : String) :
    (keyPieces key).map String.toList = (key.toList.splitOn '/').filter (· ≠ []) := by
  have hempty : ∀ word : List Char, (String.ofList word).isEmpty = decide (word = []) := by
    intro word
    rw [Bool.eq_iff_iff, String.isEmpty_iff, decide_eq_true_eq, ← String.toList_eq_nil_iff,
      String.toList_ofList]
  rw [keyPieces, List.filter_map, List.map_map]
  simp [Function.comp_def, hempty]

-- A piece of a key is a part of it that is not empty and holds no slash.
theorem mem_keyPieces (h : piece ∈ keyPieces key) :
    piece ≠ "" ∧ '/' ∉ piece.toList ∧ piece.toList <:+: key.toList := by
  have hword := List.mem_map_of_mem (f := String.toList) h
  rw [toList_keyPieces, List.mem_filter] at hword
  obtain ⟨hslash, hpart⟩ := mem_splitOn hword.1
  refine ⟨?_, hslash, hpart⟩
  rintro rfl
  simp at hword

end Keys

section Joined

variable {shown piece rest : String}

theorem joined_cases (shown : String) (hpiece : piece.toList.head? ≠ some '/') :
    (shown = "" ∧ joined shown piece = piece) ∨
    (∃ before, shown = before ++ "/" ∧ joined shown piece = before ++ "/" ++ piece) ∨
    (joined shown piece = shown ++ "/" ++ piece) := by
  rw [joined, if_neg hpiece]
  by_cases hempty : shown = ""
  · subst hempty
    exact Or.inl ⟨rfl, rfl⟩
  · by_cases hlast : shown.toList.getLast? = some '/'
    · obtain ⟨before, hbefore⟩ := List.getLast?_eq_some_iff.mp hlast
      have hshown : shown = String.ofList before ++ "/" := by
        rw [← String.toList_inj, hbefore]
        simp
      refine Or.inr (Or.inl ⟨_, hshown, ?_⟩)
      rw [if_pos (by simp [hlast]), hshown]
    · refine Or.inr (Or.inr ?_)
      rw [if_neg (by simp [hempty, hlast])]

-- The path of a word below another is what it says.
theorem ofString_joined (shown : String) (hpiece : piece.toList.head? ≠ some '/') :
    FilePath.ofString (joined shown piece) =
      FilePath.ofString shown ++ FilePath.ofString piece := by
  rcases joined_cases shown hpiece with ⟨rfl, hjoined⟩ | ⟨before, rfl, hjoined⟩ | hjoined
  · rw [hjoined, FilePath.ofString_empty, List.nil_append]
  · have hslash : before ++ "/" = before ++ "/" ++ "" := String.append_empty.symm
    rw [hjoined, FilePath.ofString_append_slash, hslash, FilePath.ofString_append_slash,
      FilePath.ofString_empty, List.append_nil]
  · rw [hjoined, FilePath.ofString_append_slash]

-- Below a path that ends in a word the rest goes behind a slash.
theorem joined_word (before : String) (hfilled : piece ≠ "") (hslash : '/' ∉ piece.toList)
    (hrest : rest.toList.head? ≠ some '/') :
    joined (before ++ piece) rest = before ++ (piece ++ "/" ++ rest) := by
  have hword : piece.toList ≠ [] := by rwa [ne_eq, String.toList_eq_nil_iff]
  have hempty : before ++ piece ≠ "" := fun h => hfilled (String.append_eq_empty_iff.mp h).2
  have hlast : (before ++ piece).toList.getLast? ≠ some '/' := by
    intro hlast
    rw [String.toList_append, List.getLast?_append_of_ne_nil _ hword] at hlast
    exact hslash (List.mem_of_getLast? hlast)
  have hplain : ¬((before ++ piece).isEmpty || (before ++ piece).toList.getLast? = some '/') := by
    rw [Bool.or_eq_true, String.isEmpty_iff, decide_eq_true_eq]
    exact not_or.mpr ⟨hempty, hlast⟩
  rw [joined, if_neg hrest, if_neg hplain, String.append_assoc, String.append_assoc,
    String.append_assoc]

-- So two words below one another are one with a slash in it.
theorem joined_joined (shown : String) (hfilled : piece ≠ "") (hslash : '/' ∉ piece.toList)
    (hrest : rest.toList.head? ≠ some '/') :
    joined (joined shown piece) rest = joined shown (piece ++ "/" ++ rest) := by
  have hhead : piece.toList.head? ≠ some '/' := by
    simpa using head?_word_append_ne_slash hfilled hslash []
  have hhead' : (piece ++ "/" ++ rest).toList.head? ≠ some '/' := by
    simpa using head?_word_append_ne_slash hfilled hslash ('/' :: rest.toList)
  rw [joined.eq_def shown, joined.eq_def shown, if_neg hhead, if_neg hhead']
  by_cases hflat : shown.isEmpty || shown.toList.getLast? = some '/'
  · rw [if_pos hflat, if_pos hflat, joined_word _ hfilled hslash hrest]
  · rw [if_neg hflat, if_neg hflat, joined_word _ hfilled hslash hrest]

end Joined

section ShownPath

variable {pieces : List String} (hwords : ∀ piece ∈ pieces, piece ≠ "" ∧ '/' ∉ piece.toList)

include hwords

private theorem head?_intercalate_ne_slash :
    ("/".intercalate pieces).toList.head? ≠ some '/' := by
  cases pieces with
  | nil => simp
  | cons first rest =>
      obtain ⟨hfilled, hslash⟩ := hwords first (by simp)
      cases rest with
      | nil => simpa using head?_word_append_ne_slash hfilled hslash []
      | cons second rest =>
          have hhead := head?_word_append_ne_slash hfilled hslash
            ('/' :: ("/".intercalate (second :: rest)).toList)
          simpa [String.intercalate_cons_cons] using hhead

-- The path of pieces is that of one word, with slashes between the pieces.
theorem foldl_joined (base : String) (hsome : pieces ≠ []) :
    pieces.foldl joined base = joined base ("/".intercalate pieces) := by
  induction pieces generalizing base with
  | nil => exact absurd rfl hsome
  | cons first rest ih =>
      obtain ⟨⟨hfilled, hslash⟩, hrest⟩ := List.forall_mem_cons.mp hwords
      rw [List.foldl_cons]
      cases rest with
      | nil => rw [List.foldl_nil, String.intercalate_singleton]
      | cons second rest =>
          rw [ih hrest _ (by simp), String.intercalate_cons_cons,
            joined_joined _ hfilled hslash (head?_intercalate_ne_slash hrest)]

-- Its names are the pieces themselves, but for single full stops.
theorem ofString_shownPath (s : FileStore) :
    FilePath.ofString (s.shownPath pieces) = s.path (pieces.filter (· ≠ ".")) := by
  rw [shownPath, path]
  generalize s.base = base
  induction pieces generalizing base with
  | nil => rw [List.foldl_nil, List.filter_nil, List.map_nil, List.append_nil]
  | cons first rest ih =>
      obtain ⟨⟨hfilled, hslash⟩, hrest⟩ := List.forall_mem_cons.mp hwords
      have hhead : first.toList.head? ≠ some '/' := by
        simpa using head?_word_append_ne_slash hfilled hslash []
      rw [List.foldl_cons, ih hrest, ofString_joined _ hhead, FilePath.ofString_word hslash,
        List.filter_cons, List.append_assoc]
      by_cases hdot : first = "."
      · simp [hdot]
      · simp [hdot, hfilled]

end ShownPath

-- What a key that is taken leads to: its words between slashes, below the base and nowhere else.
structure Confined (s : FileStore) (key : String) (pieces : List String) : Prop where
  words : pieces.map String.toList = (key.toList.splitOn '/').filter (· ≠ [])
  plain : ∀ piece ∈ pieces,
    piece ≠ "" ∧ piece ≠ ".." ∧ '/' ∉ piece.toList ∧ '\x00' ∉ piece.toList
  shown : s.shownPath pieces =
    if pieces = [] then s.base else joined s.base ("/".intercalate pieces)
  names : FilePath.ofString (s.shownPath pieces) =
    FilePath.ofString s.base ++ (pieces.filter (· ≠ ".")).map Text.utf8
  below : ∀ root place, s.tree.Rooted (FilePath.ofString s.base) root →
    s.tree.locate (FilePath.ofString (s.shownPath pieces)) = .ok place → root <+: place.path

theorem confined_of_locateKey (s : FileStore) {key : String} {pieces : List String}
    (h : locateKey key = .ok pieces) : s.Confined key pieces := by
  obtain ⟨hinside, rfl⟩ := locateKey_eq_ok_iff.mp h
  obtain ⟨hdots, _, hnul⟩ := keyStaysInside_iff.mp hinside
  have hwords : ∀ piece ∈ keyPieces key, piece ≠ "" ∧ '/' ∉ piece.toList := fun piece hpiece =>
    ⟨(mem_keyPieces hpiece).1, (mem_keyPieces hpiece).2.1⟩
  have hnames := ofString_shownPath hwords s
  have hplain : ∀ piece ∈ keyPieces key,
      piece ≠ "" ∧ piece ≠ ".." ∧ '/' ∉ piece.toList ∧ '\x00' ∉ piece.toList := by
    intro piece hpiece
    obtain ⟨hfilled, hslash, hpart⟩ := mem_keyPieces hpiece
    refine ⟨hfilled, ?_, hslash, fun hmem => hnul (hpart.subset hmem)⟩
    rintro rfl
    exact hdots hpart
  refine ⟨toList_keyPieces key, hplain, ?_, hnames, fun root place hrooted hlocate => ?_⟩
  · by_cases hnone : keyPieces key = []
    · rw [if_pos hnone, hnone]
      rfl
    · rw [if_neg hnone]
      exact foldl_joined hwords s.base hnone
  · have habove : FilePath.above ∉ ((keyPieces key).filter (· ≠ ".")).map Text.utf8 := by
      have hdotdot : FilePath.above = Text.utf8 ".." := by decide +kernel
      rw [hdotdot, List.mem_map_of_injective Text.utf8_injective]
      exact fun hmem => (hplain _ (List.mem_filter.mp hmem).1).2.1 rfl
    rw [hnames] at hlocate
    exact hrooted.prefix_of_locate habove hlocate

private theorem text_ne_dot {role : Coordinate} (segment : Segment role) : segment.text ≠ "." :=
  segment.text_ne_of_head rfl

-- The path of an image, and that of a folder.
theorem ofString_shownPath_image (s : FileStore) (a : ImageAddress) :
    FilePath.ofString (s.shownPath [a.owner.text, a.folder.text, a.name.text]) =
      FilePath.ofString s.base ++ a.names := by
  rw [(s.confined_of_locateKey (locateKey_key a)).names]
  simp [text_ne_dot, ImageAddress.names, FolderAddress.names, ImageAddress.parent]

theorem ofString_shownPath_folder (s : FileStore) (folder : FolderAddress) :
    FilePath.ofString (s.shownPath [folder.owner.text, folder.folder.text]) =
      FilePath.ofString s.base ++ folder.names := by
  rw [(s.confined_of_locateKey (locateKey_keyStart folder)).names]
  simp [text_ne_dot, FolderAddress.names]

-- A key is taken unless two full stops are next to each other in it, it begins with a slash or it
-- holds a NUL, and then it leads nowhere but below the base. The keys of images are taken. Each leads
-- to the names of the image and no others, so no two lead to one path, and none to the path of a
-- folder or of what a folder is in.
theorem keys_lead_below_base (s : FileStore) :
    (∀ key, (∃ pieces, locateKey key = .ok pieces) ↔
      ¬['.', '.'] <:+: key.toList ∧ key.toList.head? ≠ some '/' ∧ '\x00' ∉ key.toList) ∧
    (∀ key pieces, locateKey key = .ok pieces → s.Confined key pieces) ∧
    (∀ a : ImageAddress, locateKey a.key = .ok [a.owner.text, a.folder.text, a.name.text] ∧
      s.shownPath [a.owner.text, a.folder.text, a.name.text] = joined s.base a.key ∧
      FilePath.ofString (s.shownPath [a.owner.text, a.folder.text, a.name.text]) =
        s.path [a.owner.text, a.folder.text, a.name.text]) ∧
    (∀ a b : ImageAddress,
      s.shownPath [a.owner.text, a.folder.text, a.name.text] =
        s.shownPath [b.owner.text, b.folder.text, b.name.text] → a = b) ∧
    ∀ (a : ImageAddress) (folder : FolderAddress),
      ¬FilePath.ofString (s.shownPath [a.owner.text, a.folder.text, a.name.text]) <+:
        FilePath.ofString (s.shownPath [folder.owner.text, folder.folder.text]) := by
  refine ⟨fun key => ?_, fun key pieces => s.confined_of_locateKey,
    fun a => ⟨locateKey_key a, ?_, ?_⟩, fun a b hsame => ?_, fun a folder hprefix => ?_⟩
  · rw [← keyStaysInside_iff]
    exact ⟨fun ⟨_, hpieces⟩ => (locateKey_eq_ok_iff.mp hpieces).1,
      fun hinside => ⟨_, locateKey_eq_ok_iff.mpr ⟨hinside, rfl⟩⟩⟩
  · rw [(s.confined_of_locateKey (locateKey_key a)).shown, if_neg (by simp)]
    simp [String.intercalate_cons_cons, ImageAddress.key, String.append_assoc]
  · exact s.ofString_shownPath_image a
  · have hnames := congrArg FilePath.ofString hsame
    rw [ofString_shownPath_image, ofString_shownPath_image] at hnames
    exact ImageAddress.names_injective (List.append_cancel_left hnames)
  · have hlength := hprefix.length_le
    rw [ofString_shownPath_image, ofString_shownPath_folder] at hlength
    simp at hlength

-- A key of three words is taken, with one slash too many in it, and two that lead out are refused.
theorem keys_lead_below_base_of_data :
    FileStore.Confined ⟨"data", .empty⟩ "u1//./a.png" ["u1", ".", "a.png"] ∧
      (¬∃ pieces, locateKey "../etc/passwd" = .ok pieces) ∧
      ¬∃ pieces, locateKey "/etc/passwd" = .ok pieces := by
  obtain ⟨htaken, hconfined, _⟩ := keys_lead_below_base ⟨"data", .empty⟩
  refine ⟨hconfined _ _ ?_, fun hpieces => ?_, fun hpieces => ?_⟩
  · exact locateKey_eq_ok_iff.mpr ⟨by decide +kernel, by decide +kernel⟩
  · exact ((htaken _).mp hpieces).1 ⟨[], "/etc/passwd".toList, by decide +kernel⟩
  · exact ((htaken _).mp hpieces).2.1 (by decide +kernel)

end FileStore

end Gallery
