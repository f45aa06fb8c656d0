import HostFleet.Logging
import HostFleet.Proofs.Text.Occurrence
import Mathlib.Data.List.Perm.Basic

/-! # What a cleanup removes

* `HasRotatedMark`: the mark of a rotated log stands in a name or a path.
* `hasRotatedMark_join`: a path has it from its directory or from its last name.
* `LogFile.isExpired_iff`: the files that go.
* `Removes`: a cleanup removes the files of one kind, counts them and keeps all others.
* `cleanup_goes_by_names_iff`: what goes, and where only the names of the files count.
-/

set_option autoImplicit false

namespace HostFleet

variable {directory : String} {days : Nat} {f : LogFile}

/-! ## The mark -/

def HasRotatedMark (s : String) : Prop := ∃ before after : String, s = before ++ ".log." ++ after

theorem hasRotatedMark_iff {s : String} : HasRotatedMark s ↔ rotatedMark <:+: s.toList := by
  constructor
  · rintro ⟨before, after, rfl⟩
    exact ⟨before.toList, after.toList, by simp [rotatedMark]⟩
  · rintro ⟨before, after, h⟩
    refine ⟨String.ofList before, String.ofList after, String.toList_inj.1 ?_⟩
    rw [← h]
    simp [rotatedMark]

instance (s : String) : Decidable (HasRotatedMark s) :=
  decidable_of_iff (Text.contains rotatedMark s.toList = true)
    (Text.contains_iff.trans hasRotatedMark_iff.symm)

theorem slash_not_mem_rotatedMark : '/' ∉ rotatedMark := by decide

theorem endsWith_slash (h : directory.endsWith "/" = true) :
    ∃ front, directory.toList = front ++ ['/'] := by
  have hsuffix : "/".toList <:+ directory.toSlice.copy.toList :=
    String.Slice.endsWith_string_iff.1 h
  rw [String.copy_toSlice] at hsuffix
  obtain ⟨front, hfront⟩ := hsuffix
  exact ⟨front, hfront.symm⟩

theorem hasRotatedMark_join {name : String} :
    HasRotatedMark (Files.join directory name) ↔ HasRotatedMark name ∨ HasRotatedMark directory := by
  simp only [hasRotatedMark_iff]
  unfold Files.join
  split
  · next h =>
    rcases Bool.or_eq_true_iff.1 h with hempty | hends
    · rw [String.isEmpty_iff.1 hempty]
      simp [rotatedMark]
    · obtain ⟨front, hfront⟩ := endsWith_slash hends
      rw [String.toList_append, hfront, List.append_assoc, List.singleton_append,
        Text.infix_append_cons_iff slash_not_mem_rotatedMark,
        Text.infix_append_cons_iff slash_not_mem_rotatedMark, List.infix_nil, or_comm]
      simp [rotatedMark]
  · rw [String.toList_append, String.toList_append, List.append_assoc]
    have hslash : "/".toList ++ name.toList = '/' :: name.toList := rfl
    rw [hslash, Text.infix_append_cons_iff slash_not_mem_rotatedMark, or_comm]

/-! ## The files that go -/

/-- A file that was changed longer ago than the given days. -/
def LogFile.IsOld (days : Nat) (f : LogFile) : Prop :=
  f.isDirectory = false ∧ (days * 24 * 60 * 60 : Int) * 1000000000 < f.age.nanos

theorem Age.exceeds_iff {age : Age} {span : Span} :
    age.exceeds span = true ↔ (span.nanos : Int) < age.nanos := by
  unfold Age.exceeds
  exact decide_eq_true_iff

theorem LogFile.isExpired_iff : f.isExpired directory days = true ↔
    f.IsOld days ∧ (HasRotatedMark f.name ∨ HasRotatedMark directory) := by
  have hspan : ((Span.ofDays days).nanos : Int) = (days * 24 * 60 * 60 : Int) * 1000000000 := by
    simp only [Span.ofDays, Span.ofSeconds, Span.ofParts]
    omega
  unfold LogFile.isExpired LogFile.IsOld
  rw [Bool.and_eq_true, Bool.and_eq_true, Age.exceeds_iff, hspan, Text.contains_iff,
    ← hasRotatedMark_iff, hasRotatedMark_join, Bool.not_eq_true', and_right_comm]

/-! ## What is left -/

theorem mem_cleanup {files : List LogFile} : f ∈ (cleanup directory days files).2 ↔
    f ∈ files ∧ ¬f.isExpired directory days = true := by
  unfold cleanup
  rw [List.mem_filter, Bool.not_eq_true', Bool.not_eq_true]

/-- Just the files with the property are gone from the directory, and they are counted. -/
def Removes (P : LogFile → Prop) (files : List LogFile) (outcome : Nat × List LogFile) : Prop :=
  ∃ gone, List.Perm (gone ++ outcome.2) files ∧ outcome.2.Sublist files ∧
    outcome.1 = gone.length ∧ (∀ f ∈ gone, P f) ∧ ∀ f ∈ outcome.2, ¬P f

namespace Removes

variable {P Q : LogFile → Prop} {files : List LogFile} {outcome : Nat × List LogFile}

theorem congr (h : Removes P files outcome) (hPQ : ∀ f, P f ↔ Q f) : Removes Q files outcome := by
  obtain ⟨gone, hperm, hsublist, hcount, hgone, hleft⟩ := h
  exact ⟨gone, hperm, hsublist, hcount, fun f hf => (hPQ f).1 (hgone f hf),
    fun f hf hQ => hleft f hf ((hPQ f).2 hQ)⟩

theorem of_not_mem (h : Removes P files outcome) (hf : f ∈ files) (hgone : f ∉ outcome.2) :
    P f := by
  obtain ⟨gone, hperm, -, -, hP, -⟩ := h
  rcases List.mem_append.1 (hperm.mem_iff.2 hf) with hmem | hmem
  · exact hP f hmem
  · exact absurd hmem hgone

end Removes

theorem removes_cleanup (directory : String) (days : Nat) (files : List LogFile) :
    Removes (fun f => f.IsOld days ∧ (HasRotatedMark f.name ∨ HasRotatedMark directory)) files
      (cleanup directory days files) := by
  refine ⟨files.filter (·.isExpired directory days), List.filter_append_perm _ files,
    List.filter_sublist, rfl, fun f hf => ?_, fun f hf => ?_⟩
  · exact LogFile.isExpired_iff.1 (List.mem_filter.1 hf).2
  · exact mt LogFile.isExpired_iff.2 (mem_cleanup.1 hf).2

theorem cleanup_congr {other : String} (h : HasRotatedMark other ↔ HasRotatedMark directory)
    (days : Nat) (files : List LogFile) :
    cleanup other days files = cleanup directory days files := by
  have hsame : ∀ f : LogFile, f.isExpired other days = f.isExpired directory days := by
    intro f
    rw [Bool.eq_iff_iff, LogFile.isExpired_iff, LogFile.isExpired_iff, h]
  unfold cleanup
  simp only [hsame]

/-- A cleanup removes the old files that have the mark in their name or in the path of the directory,
and no directories. The files' own names decide if and only if the path of the directory does not have
the mark; beyond that it does not matter how the directory is named. -/
theorem cleanup_goes_by_names_iff (directory : String) :
    (∀ days files, Removes
      (fun f => f.IsOld days ∧ (HasRotatedMark f.name ∨ HasRotatedMark directory)) files
      (cleanup directory days files)) ∧
    ((∀ days files, Removes (fun f => f.IsOld days ∧ HasRotatedMark f.name) files
      (cleanup directory days files)) ↔ ¬HasRotatedMark directory) ∧
    ∀ other : String, (HasRotatedMark other ↔ HasRotatedMark directory) →
      ∀ days files, cleanup other days files = cleanup directory days files := by
  refine ⟨removes_cleanup directory, ⟨fun h hmark => ?_, fun hmark days files => ?_⟩,
    fun other h => cleanup_congr h⟩
  · -- a file of another name, a second old
    let note : LogFile := ⟨"notes.txt", 1, false⟩
    have hold : note.IsOld 0 := by
      unfold LogFile.IsOld
      decide
    have hgone : note ∉ (cleanup directory 0 [note]).2 := fun hleft =>
      (mem_cleanup.1 hleft).2 (LogFile.isExpired_iff.2 ⟨hold, .inr hmark⟩)
    have hname : HasRotatedMark "notes.txt" := ((h 0 [note]).of_not_mem (by simp) hgone).2
    exact absurd hname (by decide)
  · refine (removes_cleanup directory days files).congr fun f => ?_
    rw [or_iff_left hmark]

/-- In a directory with the mark in its name an old note is removed like a rotated log. -/
theorem unrelated_note_is_removed :
    ¬Removes (fun f => f.IsOld 7 ∧ HasRotatedMark f.name) [⟨"notes.txt", 3240000, false⟩]
      (cleanup "my.log.d" 7 [⟨"notes.txt", 3240000, false⟩]) ∧
    cleanup "my.log.d" 7 [⟨"notes.txt", 3240000, false⟩] = (1, []) ∧
    cleanup "logs" 7 [⟨"notes.txt", 3240000, false⟩] = (0, [⟨"notes.txt", 3240000, false⟩]) := by
  have hgone : cleanup "my.log.d" 7 [⟨"notes.txt", 3240000, false⟩] = (1, []) := by
    decide +kernel
  refine ⟨fun h => ?_, hgone, by decide +kernel⟩
  rw [hgone] at h
  have hname : HasRotatedMark "notes.txt" :=
    (h.of_not_mem List.mem_cons_self List.not_mem_nil).2
  exact absurd hname (by decide)

end HostFleet
