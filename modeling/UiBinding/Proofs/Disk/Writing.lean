/-
Writing: a text that was written to a path is read from that path.

A path is followed once to find the place to write to, and once more to read.  The file that was
put there in between is neither a folder nor a link, and what stood there before was neither, so the
second time the same folders and links are met on the way.

* `Disk.IsWritable`: a place that a file can be put at;
* `IsWritable.follow_put` and `locate_put`: the way to a file that was put there;
* `readText_of_writeText_eq_ok`: reading after writing.
-/
import UiBinding.Proofs.Assets.Registration

namespace UiBinding.Disk

/-- A place other than the root at which there is a file or nothing. -/
structure IsWritable (d : Disk) (place : Place) : Prop where
  ne_nil : place ≠ []
  file_of_content : ∀ content, d.content? place = some content → ∃ bytes, content = .file bytes

section

variable {d : Disk} {place : Place}

/-- After a file was put there, a place holds a folder if it did before. -/
lemma IsWritable.holdsFolder_put (h : d.IsWritable place) (bytes : ByteArray) (other : Place) :
    (d.put place (.file bytes)).holdsFolder other = d.holdsFolder other := by
  rw [holdsFolder, holdsFolder, content?_put d h.ne_nil]
  split
  · next heq =>
      subst heq
      cases hcontent : d.content? place with
      | none => rfl
      | some content =>
          obtain ⟨old, rfl⟩ := h.file_of_content content hcontent
          rfl
  · rfl

/-- A way that leads to a place, to what is there or to what is missing there, leads to the file
that was put there. -/
lemma IsWritable.follow_put (h : d.IsWritable place) (bytes : ByteArray) {creating : Bool}
    {links : ℕ} {here : Place} {parts : List String}
    (hfollow : d.follow creating links here parts = .ok (.present place) ∨
      d.follow creating links here parts = .ok (.absent place)) :
    (d.put place (.file bytes)).follow false links here parts = .ok (.present place) := by
  have hcontent := content?_put d h.ne_nil (.file bytes)
  fun_induction d.follow creating links here parts with
  | case1 links here =>
      obtain rfl : here = place := by simpa using hfollow
      rw [follow]
  | case3 links here part rest hfolder hstay ih =>
      rw [follow, h.holdsFolder_put, if_neg hfolder, if_pos hstay]
      exact ih hfollow
  | case4 links here rest hfolder hstay ih =>
      rw [follow, h.holdsFolder_put, if_neg hfolder, if_neg hstay, if_pos rfl]
      exact ih hfollow
  | case7 links here part hfolder hstay hup hsize hnone hslash =>
      -- what was missing is there now
      obtain rfl : here ++ [part] = place := by simpa using hfollow
      rw [follow, h.holdsFolder_put, if_neg hfolder, if_neg hstay, if_neg hup, if_neg (by simp),
        if_neg hsize, hcontent, if_pos rfl]
      simp only [follow]
  | case10 here part rest hfolder hstay hup hslash hsize target hlink links start ih =>
      have hother : place ≠ here ++ [part] := by
        rintro rfl
        obtain ⟨old, hold⟩ := h.file_of_content _ hlink
        cases hold
      rw [follow, h.holdsFolder_put, if_neg hfolder, if_neg hstay, if_neg hup, if_neg (by simp),
        if_neg hsize, hcontent, if_neg hother, hlink]
      exact ih hfollow
  | case11 links here part rest hfolder hstay hup hslash hsize content hnolink hthere ih =>
      rw [follow, h.holdsFolder_put, if_neg hfolder, if_neg hstay, if_neg hup, if_neg (by simp),
        if_neg hsize, hcontent]
      by_cases hplace : place = here ++ [part]
      · rw [if_pos hplace]
        exact ih hfollow
      · rw [if_neg hplace, hthere]
        cases content with
        | link target => exact absurd rfl (hnolink target)
        | file old => exact ih hfollow
        | folder => exact ih hfollow
  | _ => simp at hfollow

/-- A path that leads to a place leads to the file that was put there. -/
lemma IsWritable.locate_put (h : d.IsWritable place) (bytes : ByteArray) {creating : Bool}
    {path : Path} (hlocate : d.locate path creating = .ok (.present place) ∨
      d.locate path creating = .ok (.absent place)) :
    (d.put place (.file bytes)).locate path = .ok (.present place) := by
  rw [locate] at hlocate ⊢
  split_ifs at hlocate ⊢
  all_goals first
    | exact h.follow_put bytes hlocate
    | simp at hlocate

end

/-! ### The place that is written to -/

/-- What is missing at the end of a way is not there. -/
lemma content?_of_follow_eq_absent {d : Disk} {creating : Bool} {links : ℕ} {here place : Place}
    {parts : List String} (h : d.follow creating links here parts = .ok (.absent place)) :
    d.content? place = none := by
  fun_induction d.follow creating links here parts <;> simp_all

/-- What is missing at the end of a path is not there. -/
lemma content?_of_locate_eq_absent {d : Disk} {creating : Bool} {path : Path} {place : Place}
    (h : d.locate path creating = .ok (.absent place)) : d.content? place = none := by
  rw [locate] at h
  split_ifs at h <;> exact content?_of_follow_eq_absent h

variable {d written : Disk} {path : Path} {place : Place} {text : String}

/-- A path that can be written to leads to a place that a file can be put at. -/
lemma isWritable_of_target_eq_ok (h : d.target path = .ok place) : d.IsWritable place ∧
    (d.locate path true = .ok (.present place) ∨ d.locate path true = .ok (.absent place)) := by
  have hne := ne_nil_of_target_eq_ok h
  rw [target] at h
  cases hlocate : d.locate path true with
  | error fault =>
      rw [hlocate] at h
      cases h
  | ok located =>
      rw [hlocate] at h
      cases located with
      | absent missing =>
          cases h
          have hnone := content?_of_locate_eq_absent hlocate
          exact ⟨⟨hne, by simp [hnone]⟩, Or.inr rfl⟩
      | present found =>
          cases hcontent : d.content? found with
          | none => simp [hcontent] at h
          | some content =>
              cases content with
              | file old =>
                  obtain rfl : found = place := by simpa [hcontent] using h
                  exact ⟨⟨hne, by simp [hcontent]⟩, Or.inl rfl⟩
              | folder => simp [hcontent] at h
              | link target => simp [hcontent] at h

/-- **What was written is read**: after a text was written to a path, the file at this path holds
the text. -/
lemma readText_of_writeText_eq_ok (h : d.writeText path text = .ok written) :
    written.readText path = .ok text := by
  rw [writeText, writeBytes] at h
  cases htarget : d.target path with
  | error fault =>
      rw [htarget] at h
      cases h
  | ok place =>
      rw [htarget] at h
      cases h
      obtain ⟨hwritable, hlocate⟩ := isWritable_of_target_eq_ok htarget
      refine readText_of_locate (hwritable.locate_put _ hlocate) ?_
      rw [content?_put d hwritable.ne_nil, if_pos rfl]

end UiBinding.Disk
