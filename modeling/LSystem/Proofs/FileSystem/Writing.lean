import LSystem.FileSystem
import LSystem.Proofs.Result

/-! # Writing a file

A write that fails may have made directories, but it leaves all files as they are
(`write_fails`), unless it is the text that cannot be encoded: then the file that the path leads to
is empty. After a write that succeeds the path leads to a file with the new text, and all other
files are as they were (`write_written`). To read the text back, the path must lead to the same file
in the new file system: a new file takes no directory away, so every walk that went through before
still does (`walk_mono`). -/

namespace LSystem

/-- A fault of a path: the operating system refuses it, or is not even asked. -/
def FileFault.OfPath (fault : FileFault) : Prop := fault.errno?.isSome ∨ fault = .nullCharacter

namespace FileSystem

variable {fs fs' : FileSystem} {path s : Text} {dir names file file' d : List Text}
  {e : FileError}

/-- The same files, with the same contents. -/
structure SameFiles (fs fs' : FileSystem) : Prop where
  files : fs'.files = fs.files
  undecodable : fs'.undecodable = fs.undecodable

theorem SameFiles.refl (fs : FileSystem) : SameFiles fs fs := ⟨rfl, rfl⟩

theorem SameFiles.stored? (h : SameFiles fs fs') : fs'.stored? = fs.stored? := by
  funext file
  rw [FileSystem.stored?, FileSystem.stored?, content?, content?, h.files, h.undecodable]

/-- A path leads to a file with a text, and all other files are as they were in `fs`. -/
def Written (fs : FileSystem) (path s : Text) (fs' : FileSystem) : Prop :=
  fs'.read path = .ok s ∧ ∃ dir name, fs'.locate path = .ok (dir, some name) ∧
    ∀ file ≠ dir ++ [name], fs'.stored? file = fs.stored? file

/-- What cannot be read is one of the files whose bytes are no text. -/
theorem mem_undecodable {words : String} (h : fs.stored? file = some (.error words)) :
    ∃ file, (file, words) ∈ fs.undecodable := by
  unfold stored? at h
  split at h
  · cases h
  · obtain ⟨entry, hf, he⟩ := Option.map_eq_some_iff.1 h
    cases he
    exact ⟨_, List.mem_of_find?_eq_some hf⟩

/-! ## Making directories -/

theorem makeDirectories_sameFiles (fs : FileSystem) (dir : List Text) :
    SameFiles fs (fs.makeDirectories dir).2 := by
  unfold makeDirectories
  split <;> exact ⟨rfl, rfl⟩

theorem makeDirectories_fails (fs : FileSystem) (dir : List Text) :
    FailsOnly (fun e => e.fault.OfPath) (fs.makeDirectories dir).1 := by
  unfold makeDirectories
  split
  · refine failsOnly_error.2 ?_
    dsimp only
    split
    · exact .inr rfl
    · split <;> exact .inl rfl
  · dsimp only
    split
    · exact failsOnly_error.2 (.inr rfl)
    · simp

/-! ## Putting a file -/

/-- An entry for a file, with another text if it is the one that is put. -/
def retext (file : List Text) (s : Text) (entry : List Text × Text) : List Text × Text :=
  if entry.1 = file then (entry.1, s) else entry

@[simp] theorem retext_fst (file : List Text) (s : Text) (entry : List Text × Text) :
    (retext file s entry).1 = entry.1 := by
  unfold retext
  split <;> rfl

theorem put_of_isSome (h : (fs.content? file).isSome) (s : Text) :
    fs.put file s = { fs with files := fs.files.map (retext file s) } := if_pos h

theorem put_of_not_isSome (h : ¬(fs.content? file).isSome) (s : Text) :
    fs.put file s = { fs with files := fs.files ++ [(file, s)] } := if_neg h

@[simp] theorem undecodable_put (fs : FileSystem) (file : List Text) (s : Text) :
    (fs.put file s).undecodable = fs.undecodable := by
  unfold put
  split <;> rfl

@[simp] theorem working_put (fs : FileSystem) (file : List Text) (s : Text) :
    (fs.put file s).working = fs.working := by
  unfold put
  split <;> rfl

theorem content?_put (fs : FileSystem) (file file' : List Text) (s : Text) :
    (fs.put file s).content? file' = if file' = file then some s else fs.content? file' := by
  by_cases hc : (fs.content? file).isSome
  · have hp : (fun entry : List Text × Text => decide (entry.1 = file')) ∘ retext file s =
        fun entry => decide (entry.1 = file') := by
      funext entry
      rw [Function.comp_apply, retext_fst]
    rw [put_of_isSome hc]
    simp only [content?] at hc ⊢
    rw [List.find?_map, hp, Option.map_map]
    split
    · next he =>
      subst he
      cases hf : fs.files.find? fun entry => decide (entry.1 = file') with
      | none => simp [hf] at hc
      | some entry =>
        have he : entry.1 = file' := by simpa using List.find?_some hf
        simp [retext, he]
    · next hne =>
      cases hf : fs.files.find? fun entry => decide (entry.1 = file') with
      | none => rfl
      | some entry =>
        have he : entry.1 = file' := by simpa using List.find?_some hf
        simp [retext, he, hne]
  · rw [put_of_not_isSome hc]
    simp only [content?, Option.not_isSome_iff_eq_none, Option.map_eq_none_iff] at hc
    simp only [content?, List.find?_append]
    split
    · next he =>
      subst he
      simp [hc]
    · next hne => simp [Ne.symm hne]

/-- What is put into a file is read there, also if its bytes were no text before. -/
theorem stored?_put (fs : FileSystem) (file file' : List Text) (s : Text) :
    (fs.put file s).stored? file' = if file' = file then some (.ok s) else fs.stored? file' := by
  simp only [stored?, content?_put, undecodable_put]
  by_cases he : file' = file
  · simp only [if_pos he]
  · simp only [if_neg he]

theorem isDirectory_iff : fs.isDirectory d ↔
    d <+: fs.working ∨ d ∈ fs.directories ∨
      (∃ f ∈ fs.files, d.length < f.1.length ∧ d <+: f.1) ∨
      ∃ f ∈ fs.undecodable, d.length < f.1.length ∧ d <+: f.1 := by
  simp [isDirectory, or_assoc]

/-- A file makes directories of what stands above it, and of nothing else. -/
theorem isDirectory_put_iff : (fs.put file s).isDirectory d ↔
    fs.isDirectory d ∨ d.length < file.length ∧ d <+: file := by
  have hfiles : (∃ f ∈ (fs.put file s).files, d.length < f.1.length ∧ d <+: f.1) ↔
      (∃ f ∈ fs.files, d.length < f.1.length ∧ d <+: f.1) ∨
        d.length < file.length ∧ d <+: file := by
    by_cases hc : (fs.content? file).isSome
    · obtain ⟨t, ht⟩ := Option.isSome_iff_exists.1 hc
      obtain ⟨entry, hf, -⟩ := Option.map_eq_some_iff.1 ht
      have hm := List.mem_of_find?_eq_some hf
      have he : entry.1 = file := by simpa using List.find?_some hf
      rw [put_of_isSome hc]
      simp only [List.mem_map, exists_exists_and_eq_and, retext_fst]
      exact ⟨.inl, fun h => h.elim id fun hd => ⟨entry, hm, he ▸ hd⟩⟩
    · rw [put_of_not_isSome hc]
      simp [or_and_right, exists_or]
  have hdirs : (fs.put file s).directories = fs.directories := by
    unfold put
    split <;> rfl
  rw [isDirectory_iff, isDirectory_iff, hfiles, hdirs, working_put, undecodable_put]
  simp only [or_comm, or_left_comm]

/-! ## Walking -/

theorem walk_fails (fs : FileSystem) (dir names : List Text) :
    FailsOnly FileFault.OfPath (fs.walk dir names) := by
  induction names generalizing dir with
  | nil => simp [walk]
  | cons name names ih => simp [walk, ih, FileFault.OfPath, FileFault.errno?]

theorem locate_fails (fs : FileSystem) (path : Text) :
    FailsOnly FileFault.OfPath (fs.locate path) := by
  unfold locate
  split
  · exact failsOnly_error.2 (.inl rfl)
  · split
    · simp
    · split <;> exact failsOnly_map.2 (fs.walk_fails _ _)

theorem walk_mono (h : ∀ d, fs.isDirectory d → fs'.isDirectory d)
    (hw : fs.walk dir names = .ok d) : fs'.walk dir names = .ok d := by
  induction names generalizing dir with
  | nil => exact hw
  | cons name names ih =>
    rw [walk] at hw ⊢
    split at hw
    · next hn => rw [if_pos hn, ih hw]
    · next hn =>
      rw [if_neg hn]
      split at hw
      · next hn => rw [if_pos hn, ih hw]
      · next hn =>
        rw [if_neg hn]
        extract_lets at hw ⊢
        split at hw
        · next hd => rw [if_pos (h _ hd), ih hw]
        · split at hw <;> cases hw

theorem locate_mono (h : ∀ d, fs.isDirectory d → fs'.isDirectory d)
    (hw : fs'.working = fs.working) {last : Option Text}
    (hl : fs.locate path = .ok (dir, last)) : fs'.locate path = .ok (dir, last) := by
  have hs : fs'.start path = fs.start path := by rw [start, start, hw]
  unfold locate at hl ⊢
  split at hl
  · cases hl
  · next hp =>
    rw [if_neg hp, hs]
    split at hl
    · exact hl
    · split at hl
      · next hn =>
        obtain ⟨d, hd, he⟩ := map_eq_ok_iff.1 hl
        rw [if_pos hn, walk_mono h hd, ← he]
        rfl
      · next hn =>
        obtain ⟨d, hd, he⟩ := map_eq_ok_iff.1 hl
        rw [if_neg hn, walk_mono h hd, ← he]
        rfl

/-! ## Writing -/

/-- A path leads to a file that can be opened for writing. -/
structure Opens (fs : FileSystem) (path : Text) (file : List Text) : Prop where
  located : ∃ dir name, fs.locate path = .ok (dir, some name) ∧ file = dir ++ [name]
  noNull : ¬ hasNull path
  noSlash : ¬ endsInSlash path
  noDirectory : ¬ fs.isDirectory file

/-- What is put into a file that can be opened is read there. -/
theorem Opens.written (h : fs.Opens path file) (hs : SameFiles fs' fs) (s : Text) :
    Written fs' path s (fs.put file s) := by
  obtain ⟨dir, name, hl, rfl⟩ := h.located
  have hl' : (fs.put (dir ++ [name]) s).locate path = .ok (dir, some name) :=
    locate_mono (fun d hd => isDirectory_put_iff.2 (.inl hd)) (working_put ..) hl
  have hd' : ¬ (fs.put (dir ++ [name]) s).isDirectory (dir ++ [name]) := fun hd =>
    (isDirectory_put_iff.1 hd).elim h.noDirectory fun hd => Nat.lt_irrefl _ hd.1
  refine ⟨?_, dir, name, hl', fun file hne => ?_⟩
  · simp only [read, if_neg h.noNull, hl', if_neg hd', stored?_put, if_pos, if_neg h.noSlash]
  · rw [stored?_put, if_neg hne, hs.stored?]

/-- A write fails at its path and leaves the files, or it opens the file that the path leads to once
the directories are made, and puts the text there or, if that cannot be encoded, nothing. -/
theorem write_cases (fs : FileSystem) (path s : Text) : ∃ fs₁, SameFiles fs fs₁ ∧
    ((∃ e, fs.write path s = (.error e, fs₁) ∧ e.fault.OfPath) ∨
      ∃ file, fs₁.Opens path file ∧ fs.write path s =
        match Encoding.utf8.fault? s with
        | none => (.ok (), fs₁.put file s)
        | some fault => (.error ⟨.unencodable fault, path⟩, fs₁.put file [])) := by
  have hm := fs.makeDirectories_sameFiles (normalize (fs.start path) (names path)).dropLast
  have hf := fs.makeDirectories_fails (normalize (fs.start path) (names path)).dropLast
  unfold write
  cases hd : fs.makeDirectories (normalize (fs.start path) (names path)).dropLast with
  | mk result fs₁ =>
    rw [hd] at hm hf
    refine ⟨fs₁, hm, ?_⟩
    cases result with
    | error e => exact .inl ⟨e, rfl, hf e rfl⟩
    | ok u =>
      dsimp only
      split
      · exact .inl ⟨_, rfl, .inr rfl⟩
      · next hnull =>
        cases hl : fs₁.locate path with
        | error fault => exact .inl ⟨_, rfl, fs₁.locate_fails path fault hl⟩
        | ok place =>
          obtain ⟨dir, _ | name⟩ := place
          · exact .inl ⟨_, rfl, .inl rfl⟩
          · dsimp only
            split
            · exact .inl ⟨_, rfl, .inl rfl⟩
            · next hf =>
              rw [Bool.or_eq_true, not_or] at hf
              exact .inr ⟨dir ++ [name], ⟨⟨dir, name, hl, rfl⟩, hnull, hf.2, hf.1⟩, rfl⟩

theorem write_fails (h : (fs.write path s).1 = .error e) :
    SameFiles fs (fs.write path s).2 ∧ e.fault.OfPath ∨
      ∃ fault, e = ⟨.unencodable fault, path⟩ ∧ Encoding.utf8.fault? s = some fault ∧
        Written fs path [] (fs.write path s).2 := by
  obtain ⟨fs₁, hs, ⟨e', hw, hp⟩ | ⟨file, ho, hw⟩⟩ := write_cases fs path s
  · rw [hw] at h ⊢
    cases h
    exact .inl ⟨hs, hp⟩
  · rw [hw] at h ⊢
    cases hu : Encoding.utf8.fault? s with
    | none => rw [hu] at h; cases h
    | some fault =>
      rw [hu] at h
      cases h
      exact .inr ⟨fault, rfl, rfl, ho.written hs []⟩

theorem write_written (h : (fs.write path s).1 = .ok ()) :
    Written fs path s (fs.write path s).2 := by
  obtain ⟨fs₁, hs, ⟨e, hw, -⟩ | ⟨file, ho, hw⟩⟩ := write_cases fs path s
  · rw [hw] at h
    cases h
  · rw [hw] at h ⊢
    cases hu : Encoding.utf8.fault? s with
    | none => exact ho.written hs s
    | some fault => rw [hu] at h; cases h

/-! ## Reading -/

theorem read_fails (fs : FileSystem) (path : Text) : FailsOnly
    (fun e => e.fault.OfPath ∨ ∃ file words, (file, words) ∈ fs.undecodable ∧
      e.fault = .undecodable words) (fs.read path) := by
  unfold read
  extract_lets refuse
  have hr (fault : FileFault) (h : fault.OfPath) : FailsOnly (fun e => e.fault.OfPath ∨
      ∃ file words, (file, words) ∈ fs.undecodable ∧ e.fault = .undecodable words)
      (refuse fault) := failsOnly_error.2 (.inl h)
  split
  · exact hr _ (.inr rfl)
  · split
    · next fault hl => exact hr _ (fs.locate_fails path fault hl)
    · exact hr _ (.inl rfl)
    · extract_lets file
      split
      · exact hr _ (.inl rfl)
      · split
        · exact hr _ (.inl rfl)
        · next stored hs =>
          split
          · exact hr _ (.inl rfl)
          · split
            · simp
            · next words =>
              obtain ⟨file, hm⟩ := mem_undecodable hs
              exact failsOnly_error.2 (.inr ⟨file, words, hm, rfl⟩)

end FileSystem

end LSystem
