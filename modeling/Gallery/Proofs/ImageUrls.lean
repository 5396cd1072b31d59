import Gallery.Proofs.Service.Route
import Gallery.Proofs.Url.Unmarked

namespace Gallery.ImageUrls

theorem mem_of_mem_withoutEndSlashes {cs : List Char} {c : Char} (h : c ∈ withoutEndSlashes cs) :
    c ∈ cs := by
  have hreversed := (List.dropWhile_sublist _).mem (List.mem_reverse.mp h)
  exact List.mem_reverse.mp hreversed

theorem getLast?_withoutEndSlashes (cs : List Char) :
    (withoutEndSlashes cs).getLast? ≠ some '/' := by
  intro hlast
  rw [withoutEndSlashes, List.getLast?_reverse] at hlast
  have hstop := List.head?_dropWhile_not (· == '/') cs.reverse
  rw [hlast] at hstop
  cases hstop

-- The public base URL is an address of the web, and no more than its path is left of it.
theorem exists_located_of_ofBase {written : String} {urls : ImageUrls}
    (h : ofBase written = .ok urls) :
    ∃ scheme authority path carriesMore,
      Url.ofText (Text.trimChars written.toList) = .ok (.located scheme authority path carriesMore) ∧
      (scheme = "http" ∨ scheme = "https") ∧
      urls.root.toList = withoutEndSlashes (Url.locatedText scheme authority path) := by
  unfold ofBase at h
  split at h
  · cases h
  · cases h
  · rename_i scheme authority path carriesMore hread
    split at h
    · cases h
    · rename_i hscheme
      split at h
      · cases h
      · cases h
        refine ⟨scheme, authority, path, carriesMore, hread, ?_, String.toList_ofList⟩
        by_contra hother
        exact hscheme (not_or.mp hother)

theorem getLast?_root {written : String} {urls : ImageUrls} (h : ofBase written = .ok urls) :
    urls.root.toList.getLast? ≠ some '/' := by
  obtain ⟨scheme, authority, path, carriesMore, _, _, hroot⟩ := exists_located_of_ofBase h
  rw [hroot]
  exact getLast?_withoutEndSlashes _

theorem unmarked_root {written : String} {urls : ImageUrls} (h : ofBase written = .ok urls) :
    Url.Unmarked urls.root.toList := by
  obtain ⟨scheme, authority, path, carriesMore, hread, hscheme, hroot⟩ := exists_located_of_ofBase h
  obtain ⟨hauthority, hpath⟩ := Url.unmarked_ofText hread
  have hwritten : Url.Unmarked scheme.toList := by
    rcases hscheme with rfl | rfl <;> simp
  have hlocated : Url.Unmarked (Url.locatedText scheme authority path) := by
    simp only [Url.locatedText, Url.unmarked_append, hwritten, hauthority, hpath, and_true]
    simp
  intro c hc
  rw [hroot] at hc
  exact hlocated c (mem_of_mem_withoutEndSlashes hc)

variable (urls : ImageUrls)

theorem image_eq (a : ImageAddress) : urls.image a = urls.root ++ a.path := by
  simp only [image, base, ImageAddress.path, String.append_assoc]

theorem folder_eq (a : FolderAddress) : urls.folder a = urls.root ++ a.path := by
  simp only [folder, base, FolderAddress.path, String.append_assoc]

theorem image_injective : Function.Injective urls.image := by
  intro a b h
  rw [image, image, String.append_right_inj] at h
  exact ImageAddress.key_injective h

theorem folder_injective : Function.Injective urls.folder := by
  intro a b h
  rw [folder, folder, String.append_right_inj] at h
  exact FolderAddress.keyStart_injective h

theorem image_ne_folder (a : ImageAddress) (b : FolderAddress) : urls.image a ≠ urls.folder b := by
  intro h
  rw [image, folder, String.append_right_inj] at h
  exact a.key_ne_keyStart b h

end Gallery.ImageUrls
