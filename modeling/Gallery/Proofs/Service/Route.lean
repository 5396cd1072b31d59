import Gallery.Proofs.Address
import Gallery.Proofs.Text.Percent
import Gallery.Service.Route

namespace Gallery

-- The path of an image, and the two paths of a folder: with a slash at its end, and without.
def ImageAddress.path (a : ImageAddress) : String := imageRoutes ++ "/" ++ a.key

def FolderAddress.path (a : FolderAddress) : String := imageRoutes ++ "/" ++ a.keyStart

def FolderAddress.plainPath (a : FolderAddress) : String := imageRoutes ++ "/" ++ a.shown

namespace Route

theorem wordsOf_append_slash (before after : String) :
    wordsOf (before ++ "/" ++ after) = wordsOf before ++ wordsOf after := by
  have hslash : (before ++ "/" ++ after).toList = before.toList ++ '/' :: after.toList := by simp
  simp only [wordsOf, hslash, List.splitOn_append_cons_self, List.map_append]

theorem wordsOf_segment {role : Coordinate} (s : Segment role) : wordsOf s.text = [s.text] := by
  rw [wordsOf, List.splitOn_eq_singleton s.slash_not_mem, List.map_singleton, String.ofList_toList]

theorem wordsOf_key (a : ImageAddress) :
    wordsOf a.key = [a.owner.text, a.folder.text, a.name.text] := by
  simp only [ImageAddress.key, wordsOf_append_slash, wordsOf_segment, List.cons_append,
    List.nil_append]

theorem wordsOf_shown (a : FolderAddress) : wordsOf a.shown = [a.owner.text, a.folder.text] := by
  simp only [FolderAddress.shown, wordsOf_append_slash, wordsOf_segment, List.cons_append,
    List.nil_append]

theorem wordsOf_keyStart (a : FolderAddress) :
    wordsOf a.keyStart = [a.owner.text, a.folder.text, ""] := by
  have hshown : a.keyStart = a.shown ++ "/" ++ "" := by
    simp [FolderAddress.keyStart, FolderAddress.shown]
  rw [hshown, wordsOf_append_slash, wordsOf_shown]
  rfl

-- Below the start of the image routes only the words after it count.
theorem ofPath_below (rest : String) :
    ofPath (imageRoutes ++ "/" ++ rest) = ofWords (wordsOf rest) := by
  have himages : imageWords = ["", "api", "v0", "images"] := by decide +kernel
  have hwords : wordsOf (imageRoutes ++ "/" ++ rest) = imageWords ++ wordsOf rest :=
    wordsOf_append_slash imageRoutes rest
  unfold ofPath
  rw [hwords, himages]
  simp

theorem ofPath_imageRoutes : ofPath imageRoutes = none := by decide +kernel

-- No route below the start of the image routes is open to all.
theorem isOpen_of_ofWords {words : List String} {route : Route} (h : ofWords words = some route) :
    route.isOpen = false := by
  unfold ofWords at h
  split at h
  · cases h
    rfl
  · cases h
    rfl
  · cases h
    rfl
  · split at h
    · cases h
    · cases h
      rfl
  · split at h
    · cases h
      rfl
    · cases h
      rfl
  · cases h

theorem isOpen_of_isUpload {route : Route} (h : route.isUpload = true) : route.isOpen = false := by
  cases route with
  | upload | base64Upload => rfl
  | _ => cases h

-- Three words name an image, whatever they are.
theorem ofPath_image (a : ImageAddress) :
    ofPath a.path = some (.image a.owner.text a.folder.text a.name.text) := by
  have hname : a.name.text.isEmpty = false :=
    String.isEmpty_eq_false_iff.mpr a.name.text_ne_empty
  rw [ImageAddress.path, ofPath_below, wordsOf_key]
  simp [ofWords, hname]

theorem ofPath_folder (a : FolderAddress) :
    ofPath a.path = some (.folder a.owner.text a.folder.text) := by
  rw [FolderAddress.path, ofPath_below, wordsOf_keyStart]
  simp [ofWords]

end Route

-- The folder `base64` of the owner `upload`: without the slash its path is that of uploads.
def FolderAddress.IsUploadPath (a : FolderAddress) : Prop :=
  a.owner.text = "upload" ∧ a.folder.text = "base64"

instance (a : FolderAddress) : Decidable a.IsUploadPath := inferInstanceAs (Decidable (_ ∧ _))

namespace Route

theorem ofPath_plainPath (a : FolderAddress) :
    ofPath a.plainPath =
      some (if a.IsUploadPath then .base64Upload else .folder a.owner.text a.folder.text) := by
  have hfolder : a.folder.text.isEmpty = false :=
    String.isEmpty_eq_false_iff.mpr a.folder.text_ne_empty
  rw [FolderAddress.plainPath, ofPath_below, wordsOf_shown]
  by_cases hupload : a.IsUploadPath
  · obtain ⟨howner, hname⟩ := hupload
    rw [if_pos ⟨howner, hname⟩, howner, hname]
    rfl
  · have hother : a.owner.text = "upload" → a.folder.text = "base64" → False :=
      fun howner hname => hupload ⟨howner, hname⟩
    rw [if_neg hupload, ofWords.eq_4 _ _ hother, hfolder]
    rfl

-- A segment needs no encoding, so the word of a path that it is written as stands for itself.
theorem decodeWord?_text {role : Coordinate} (s : Segment role) :
    decodeWord? s.text = some s.text := by
  have hplain : (0x25 : UInt8) ∉ Text.utf8 s.text := by
    rw [Text.utf8_of_ascii s.text fun c hc => s.val_le_of_mem hc, List.mem_map]
    rintro ⟨c, hc, hbyte⟩
    have hascii := UInt32.le_iff_toNat_le.mp (s.val_le_of_mem hc)
    have hnat := congrArg UInt8.toNat hbyte
    have h127 : (127 : UInt32).toNat = 127 := rfl
    have h37 : (0x25 : UInt8).toNat = 37 := rfl
    rw [UInt32.toNat_toUInt8] at hnat
    have hpercent : c = '%' := by
      apply Char.ext
      apply UInt32.toNat_inj.mp
      have hval : '%'.val.toNat = 37 := rfl
      omega
    exact s.not_mem_of_not_allowed (by decide) (hpercent ▸ hc)
  rw [decodeWord?, Text.percentDecode_of_not_mem hplain, Text.ofUtf8?_mk_eq_some_iff]

theorem decodeWords_folder (a : FolderAddress) :
    decodeWords [("owner", a.owner.text), ("folder", a.folder.text)] =
      .ok [a.owner.text, a.folder.text] := by
  simp only [decodeWords, decodeWord?_text, Except.map]

theorem decodeWords_image (a : ImageAddress) :
    decodeWords [("owner", a.owner.text), ("folder", a.folder.text), ("name", a.name.text)] =
      .ok [a.owner.text, a.folder.text, a.name.text] := by
  simp only [decodeWords, decodeWord?_text, Except.map]

end Route

end Gallery
