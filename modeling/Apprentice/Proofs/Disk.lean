import Apprentice.Disk

/-!
# Writing and reading a file

A file that was written can be read at the same path, and writing the same text there once more
changes nothing. For the directories above a file are made first, so that its path can be followed
afterwards, and what exists already is left as it is.
-/

namespace Apprentice.Disk

variable {disk made written : Disk} {location place : Location} {parts : List String}
  {path text name : String}

/-- Whether relative and absolute paths start at directories. -/
structure Rooted (disk : Disk) : Prop where
  root : disk.isDirectory [] = true
  working : disk.isDirectory disk.workingDirectory = true

theorem rooted_bare (location : Location) : (bare location).Rooted := by
  have hinitial : ∀ n ≤ location.length, (bare location).isDirectory (location.take n) = true := by
    intro n hn
    refine List.contains_iff_mem.mpr (List.mem_map.mpr ⟨n, List.mem_range.mpr ?_, rfl⟩)
    exact Nat.lt_succ_of_le hn
  refine ⟨?_, ?_⟩
  · simpa using hinitial 0 (Nat.zero_le _)
  · simpa [bare] using hinitial location.length (Nat.le_refl _)

theorem Rooted.start (hrooted : disk.Rooted) (path : String) :
    disk.isDirectory (disk.start path) = true := by
  rw [Disk.start]
  split
  · exact hrooted.root
  · exact hrooted.working

/-! ### Directories -/

/-- Whether one disk is another one with more directories. -/
structure Extends (disk made : Disk) : Prop where
  working : made.workingDirectory = disk.workingDirectory
  files : made.files = disk.files
  directories : ∀ location, disk.isDirectory location = true → made.isDirectory location = true

theorem extends_makeDirectories (disk : Disk) (location : Location) (parts : List String) :
    disk.Extends (disk.makeDirectories location parts).2 := by
  fun_induction makeDirectories disk location parts with
  | case1 disk => exact ⟨rfl, rfl, fun _ hdirectory => hdirectory⟩
  | case2 _ _ _ _ _ _ ih => exact ih
  | case3 disk => exact ⟨rfl, rfl, fun _ hdirectory => hdirectory⟩
  | case4 disk _ _ _ _ _ _ ih =>
      refine ⟨ih.working, ih.files, fun other hdirectory => ih.directories other ?_⟩
      rw [isDirectory, List.contains_iff_mem] at hdirectory ⊢
      exact List.mem_append_left _ hdirectory

theorem Extends.start (hextends : disk.Extends made) (path : String) :
    made.start path = disk.start path := by
  rw [Disk.start, Disk.start, hextends.working]

theorem follow_of_makeDirectories (hdirectory : disk.isDirectory location = true)
    (hmade : disk.makeDirectories location parts = (some place, made)) :
    made.follow location parts = some place ∧ made.isDirectory place = true := by
  fun_induction makeDirectories disk location parts with
  | case1 disk location =>
      cases hmade
      exact ⟨rfl, hdirectory⟩
  | case2 disk location name parts next hnext ih =>
      have hextends := extends_makeDirectories disk next parts
      rw [hmade] at hextends
      obtain ⟨hfollow, hplace⟩ := ih hnext hmade
      rw [follow, if_pos (hextends.directories location hdirectory)]
      exact ⟨hfollow, hplace⟩
  | case3 => cases hmade
  | case4 disk location name parts next hnext hfile ih =>
      have hextends := extends_makeDirectories
        { disk with directories := disk.directories ++ [next] } next parts
      rw [hmade] at hextends
      -- `next` was made, so it is there besides everything that was there already
      have hkept : ∀ other, disk.isDirectory other = true ∨ other = next →
          made.isDirectory other = true := by
        intro other hother
        refine hextends.directories other ?_
        rw [isDirectory, List.contains_iff_mem, List.mem_append, List.mem_singleton]
        exact hother.imp_left List.contains_iff_mem.mp
      obtain ⟨hfollow, hplace⟩ := ih (List.contains_iff_mem.mpr (by simp)) hmade
      rw [follow, if_pos (hkept location (.inl hdirectory))]
      exact ⟨hfollow, hplace⟩

theorem makeDirectories_of_follow (hfollow : disk.follow location parts = some place)
    (hplace : disk.isDirectory place = true) :
    disk.makeDirectories location parts = (some place, disk) := by
  induction parts generalizing location with
  | nil =>
      cases hfollow
      rfl
  | cons name parts ih =>
      rw [follow] at hfollow
      split at hfollow
      next =>
        -- the first name leads to a directory because it is the end, or is followed on from
        have hnext : disk.isDirectory (step location name) = true := by
          cases parts with
          | nil =>
              cases hfollow
              exact hplace
          | cons other parts =>
              rw [follow] at hfollow
              split at hfollow
              next hnext => exact hnext
              next => cases hfollow
        rw [makeDirectories, if_pos hnext]
        exact ih hfollow
      next => cases hfollow

theorem follow_concat (hfollow : disk.follow location parts = some place)
    (hplace : disk.isDirectory place = true) (name : String) :
    disk.follow location (parts ++ [name]) = some (step place name) := by
  induction parts generalizing location with
  | nil =>
      cases hfollow
      rw [List.nil_append, follow, if_pos hplace, follow]
  | cons other parts ih =>
      rw [follow] at hfollow
      split at hfollow
      next hdirectory =>
        rw [List.cons_append, follow, if_pos hdirectory]
        exact ih hfollow
      next => cases hfollow

/-! ### Files -/

theorem file?_put (disk : Disk) (location : Location) (text : String) :
    (disk.put location text).file? location = some text := by
  have hnone : (disk.files.filter fun entry => entry.1 != location).find?
      (fun entry => entry.1 == location) = none := by
    simp [List.find?_eq_none]
  rw [file?, put, List.find?_append, hnone]
  simp

theorem put_put (disk : Disk) (location : Location) (text : String) :
    (disk.put location text).put location text = disk.put location text := by
  simp [put, List.filter_append]

/-- What a write does that succeeds: the directories above the file are made, and its text is put
where its name leads from there. -/
theorem write_eq_true (hwrite : disk.write path text = (true, written)) :
    ∃ name place made, (names path).getLast? = some name ∧
      disk.makeDirectories (disk.start path) (names path).dropLast = (some place, made) ∧
      meansDirectory path = false ∧ made.isDirectory (step place name) = false ∧
      made.put (step place name) text = written := by
  rw [write] at hwrite
  split at hwrite
  next => cases hwrite
  next name hname =>
    split at hwrite
    next => cases hwrite
    next place made hmade =>
      dsimp only at hwrite
      split at hwrite
      next => cases hwrite
      next hfile =>
        obtain ⟨hmeans, hdirectory⟩ := Bool.or_eq_false_iff.mp (Bool.not_eq_true _ ▸ hfile)
        exact ⟨name, place, made, hname, hmade, hmeans, hdirectory, (Prod.mk.inj hwrite).2⟩

theorem follow_put (disk : Disk) (place : Location) (text : String) (location : Location)
    (parts : List String) :
    (disk.put place text).follow location parts = disk.follow location parts := by
  induction parts generalizing location with
  | nil => rfl
  | cons name parts ih =>
      rw [follow, follow, ih]
      rfl

theorem names_append {name : String} (hlast : (names path).getLast? = some name) :
    (names path).dropLast ++ [name] = names path := by
  obtain ⟨front, hfront⟩ := List.getLast?_eq_some_iff.mp hlast
  rw [hfront, List.dropLast_concat]

theorem read?_of_write (hrooted : disk.Rooted) (hwrite : disk.write path text = (true, written)) :
    written.read? path = some text := by
  obtain ⟨name, place, made, hname, hmade, hmeans, hfile, rfl⟩ := write_eq_true hwrite
  have hextends := extends_makeDirectories disk (disk.start path) (names path).dropLast
  rw [hmade] at hextends
  obtain ⟨hfollow, hplace⟩ := follow_of_makeDirectories (hrooted.start path) hmade
  have hnonempty : path.isEmpty = false := by
    cases hempty : path.isEmpty with
    | false => rfl
    | true =>
        obtain rfl := String.isEmpty_iff.mp hempty
        cases hname
  have hlocate : (made.put (step place name) text).locate? path = some (step place name) := by
    rw [locate?, hnonempty, if_neg Bool.false_ne_true, follow_put]
    change made.follow (made.start path) (names path) = _
    rw [hextends.start, ← names_append hname]
    exact follow_concat hfollow hplace name
  have hnot : (made.put (step place name) text).isDirectory (step place name) = false := hfile
  rw [read?, hlocate]
  dsimp only
  rw [hnot, hmeans]
  exact file?_put made _ text

theorem pathExists_of_read? (hread : disk.read? path = some text) :
    disk.pathExists path = true := by
  rw [pathExists, hread, Option.isSome_some, Bool.or_true]

/-- Writing the same text at the same path again changes nothing. -/
theorem write_of_write (hrooted : disk.Rooted) (hwrite : disk.write path text = (true, written)) :
    written.write path text = (true, written) := by
  obtain ⟨name, place, made, hname, hmade, hmeans, hfile, rfl⟩ := write_eq_true hwrite
  have hextends := extends_makeDirectories disk (disk.start path) (names path).dropLast
  rw [hmade] at hextends
  obtain ⟨hfollow, hplace⟩ := follow_of_makeDirectories (hrooted.start path) hmade
  have hagain : (made.put (step place name) text).makeDirectories
      ((made.put (step place name) text).start path) (names path).dropLast =
        (some place, made.put (step place name) text) := by
    refine makeDirectories_of_follow ?_ hplace
    rw [follow_put]
    change made.follow (made.start path) _ = _
    rw [hextends.start]
    exact hfollow
  rw [write, hname]
  dsimp only
  rw [hagain]
  dsimp only
  rw [hmeans]
  change (if made.isDirectory (step place name) = true then _ else _) = _
  rw [hfile, if_neg Bool.false_ne_true, put_put]

end Apprentice.Disk
