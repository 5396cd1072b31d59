import Gallery.Address
import Gallery.Proofs.Segment

namespace Gallery

namespace Segment

theorem slash_not_mem {role : Coordinate} (s : Segment role) : '/' ∉ s.text.toList :=
  not_mem_of_not_allowed s (by decide)

-- A separator between two texts keeps their full stops apart.
theorem hasTraversal_append_slash (cs ds : List Char) :
    hasTraversal (cs ++ '/' :: ds) = (hasTraversal cs || hasTraversal ds) := by
  fun_induction hasTraversal cs with
  | case1 => rfl
  | case2 c rest hne ih =>
      rw [List.cons_append, hasTraversal.eq_2]
      · exact ih
      · intro tail hc htail
        cases rest with
        | nil => cases htail
        | cons d rest =>
            rw [List.cons_append, List.cons.injEq] at htail
            exact hne rest hc (by rw [htail.1])
  | case3 => rfl

end Segment

namespace FolderAddress

theorem toList_keyStart (a : FolderAddress) :
    a.keyStart.toList = a.owner.text.toList ++ '/' :: (a.folder.text.toList ++ '/' :: []) := by
  simp [keyStart]

theorem splitOn_keyStart (a : FolderAddress) :
    a.keyStart.toList.splitOn '/' = [a.owner.text.toList, a.folder.text.toList, []] := by
  rw [toList_keyStart, List.splitOn_append_cons_self_of_not_mem a.owner.slash_not_mem,
    List.splitOn_append_cons_self_of_not_mem a.folder.slash_not_mem, List.splitOn_nil]

theorem keyStart_injective : Function.Injective keyStart := by
  rintro ⟨o, f⟩ ⟨o', f'⟩ h
  have hsplit := congrArg (fun k : String => k.toList.splitOn '/') h
  simp only [splitOn_keyStart, List.cons.injEq, String.toList_inj, and_true] at hsplit
  obtain ⟨ho, hf⟩ := hsplit
  rw [Segment.text_injective ho, Segment.text_injective hf]

theorem hasTraversal_keyStart (a : FolderAddress) :
    Segment.hasTraversal a.keyStart.toList = false := by
  simp [toList_keyStart, Segment.hasTraversal_append_slash, Segment.hasTraversal_text,
    Segment.hasTraversal]

end FolderAddress

namespace ImageAddress

theorem key_eq (a : ImageAddress) : a.key = a.parent.keyStart ++ a.name.text := by
  simp [key, FolderAddress.keyStart, parent, String.append_assoc]

theorem toList_key (a : ImageAddress) :
    a.key.toList =
      a.owner.text.toList ++ '/' :: (a.folder.text.toList ++ '/' :: a.name.text.toList) := by
  simp [key]

theorem splitOn_key (a : ImageAddress) :
    a.key.toList.splitOn '/' =
      [a.owner.text.toList, a.folder.text.toList, a.name.text.toList] := by
  rw [toList_key, List.splitOn_append_cons_self_of_not_mem a.owner.slash_not_mem,
    List.splitOn_append_cons_self_of_not_mem a.folder.slash_not_mem,
    List.splitOn_eq_singleton a.name.slash_not_mem]

theorem hasTraversal_key (a : ImageAddress) : Segment.hasTraversal a.key.toList = false := by
  simp [toList_key, Segment.hasTraversal_append_slash, Segment.hasTraversal_text]

-- A key can be read in one way only, since no segment holds a separator.
theorem key_injective : Function.Injective key := by
  rintro ⟨o, f, n⟩ ⟨o', f', n'⟩ h
  have hsplit := congrArg (fun k : String => k.toList.splitOn '/') h
  simp only [splitOn_key, List.cons.injEq, String.toList_inj, and_true] at hsplit
  obtain ⟨ho, hf, hn⟩ := hsplit
  rw [Segment.text_injective ho, Segment.text_injective hf, Segment.text_injective hn]

theorem key_inj {a b : ImageAddress} : a.key = b.key ↔ a = b := key_injective.eq_iff

-- The start of a folder's keys starts no key of another folder, be it one whose name goes on
-- where the name of this one ends.
theorem keyStart_isPrefixOf_key_iff (folder : FolderAddress) (a : ImageAddress) :
    folder.keyStart.toList.isPrefixOf a.key.toList = true ↔ a.parent = folder := by
  rw [List.isPrefixOf_iff_prefix]
  constructor
  · rintro ⟨rest, hrest⟩
    have hsplit := splitOn_key a
    rw [← hrest, FolderAddress.toList_keyStart] at hsplit
    simp only [List.append_assoc, List.cons_append, List.nil_append] at hsplit
    rw [List.splitOn_append_cons_self_of_not_mem folder.owner.slash_not_mem,
      List.splitOn_append_cons_self_of_not_mem folder.folder.slash_not_mem] at hsplit
    simp only [List.cons.injEq, String.toList_inj] at hsplit
    obtain ⟨ho, hf, _⟩ := hsplit
    have howner : a.owner = folder.owner := (Segment.text_injective ho).symm
    have hfolder : a.folder = folder.folder := (Segment.text_injective hf).symm
    rw [parent, howner, hfolder]
  · rintro rfl
    exact ⟨a.name.text.toList, by rw [key_eq, String.toList_append]⟩

-- So a key that begins like those of a folder is that of an image in it.
theorem keyStart_append_eq_key_iff (folder : FolderAddress) (name : String) (a : ImageAddress) :
    folder.keyStart ++ name = a.key ↔ a.parent = folder ∧ name = a.name.text := by
  constructor
  · intro h
    have hparent : a.parent = folder := by
      rw [← keyStart_isPrefixOf_key_iff, List.isPrefixOf_iff_prefix, ← h, String.toList_append]
      exact List.prefix_append _ _
    rw [key_eq, hparent] at h
    exact ⟨hparent, (String.append_right_inj _).mp h⟩
  · rintro ⟨rfl, rfl⟩
    exact a.key_eq.symm

-- And no key is the start of the keys of a folder, since a name is not empty.
theorem key_ne_keyStart (a : ImageAddress) (folder : FolderAddress) : a.key ≠ folder.keyStart := by
  intro h
  have hname := (keyStart_append_eq_key_iff folder "" a).mp (by rw [h, String.append_empty])
  exact a.name.text_ne_empty hname.2.symm

-- Keys tell addresses apart, and folders: a key begins as those of a folder do exactly if the
-- image is in the folder, and the rest is the name. No two full stops are next to each other in a
-- key, and no part between its slashes is empty or begins with one.
theorem keys_unambiguous :
    (∀ a b : ImageAddress, a.key = b.key ↔ a = b) ∧
    (∀ (a : ImageAddress) (folder : FolderAddress),
      (folder.keyStart.toList <+: a.key.toList ↔ a.parent = folder) ∧
      ∀ rest, a.key = folder.keyStart ++ rest ↔ a.parent = folder ∧ rest = a.name.text) ∧
    ∀ a : ImageAddress, ¬['.', '.'] <:+: a.key.toList ∧
      ∀ part ∈ a.key.toList.splitOn '/', part ≠ [] ∧ part.head? ≠ some '.' := by
  refine ⟨fun a b => key_inj, fun a folder => ⟨?_, fun rest => ?_⟩, fun a => ⟨?_, ?_⟩⟩
  · rw [← List.isPrefixOf_iff_prefix]
    exact keyStart_isPrefixOf_key_iff folder a
  · rw [eq_comm]
    exact keyStart_append_eq_key_iff folder rest a
  · rw [← Segment.hasTraversal_iff_infix, hasTraversal_key]
    exact Bool.false_ne_true
  · rw [splitOn_key]
    simp only [List.forall_mem_cons, List.not_mem_nil, false_imp_iff, implies_true, and_true]
    exact ⟨⟨a.owner.toList_ne_nil, a.owner.head?_ne_dot⟩,
      ⟨a.folder.toList_ne_nil, a.folder.head?_ne_dot⟩,
      a.name.toList_ne_nil, a.name.head?_ne_dot⟩

-- An address to show general statements at.
def sample : ImageAddress :=
  ⟨⟨"u1", by decide +kernel⟩, ⟨"avatars", by decide +kernel⟩, ⟨"a.png", by decide +kernel⟩⟩

end ImageAddress

end Gallery
