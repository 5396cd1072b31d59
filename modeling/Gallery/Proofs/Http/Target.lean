import Gallery.Http.Target
import Mathlib.Data.List.TakeWhile

namespace Gallery.Http.Target

theorem ne_of_isPathChar {c : Char} (h : isPathChar c = true) : c ≠ '?' ∧ c ≠ '#' := by
  constructor
  · rintro rfl
    exact absurd h (by decide)
  · rintro rfl
    exact absurd h (by decide)

-- Characters of a path begin neither a query nor a fragment, so all of them are the path.
theorem readPath_of_all {cs : List Char} (h : ∀ c ∈ cs, isPathChar c = true) :
    readPath cs = .ok cs := by
  have htake : (cs.takeWhile fun c => c != '?' && c != '#') = cs := by
    rw [List.takeWhile_eq_self_iff]
    intro c hc
    obtain ⟨hquery, hfragment⟩ := ne_of_isPathChar (h c hc)
    simp [hquery, hfragment]
  have hall : cs.all isPathChar = true := List.all_eq_true.mpr h
  simp [readPath, htake, hall]

-- A path that is not too long is a request target, and stands for itself.
theorem path_of_all {target : String} {cs : List Char} (htarget : target.toList = '/' :: cs)
    (hlength : target.utf8ByteSize ≤ 65534)
    (h : ∀ c ∈ target.toList, isPathChar c = true) : path target = .ok target := by
  have hlong : ¬65534 < target.utf8ByteSize := Nat.not_lt.mpr hlength
  have hread : readPath ('/' :: cs) = .ok ('/' :: cs) := htarget ▸ readPath_of_all h
  have htext : String.ofList ('/' :: cs) = target := by rw [← htarget, String.ofList_toList]
  simp only [path, if_neg hlong, htarget, hread, bind, Except.bind, pure, Except.pure, htext]

end Gallery.Http.Target
