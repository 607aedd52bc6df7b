/-
# Which stills are kept

The name of a file tells the sanitised name of its session and its number (`fileName_eq_iff`).  The
name of the session itself it does not tell: sessions whose names differ in characters that have no
place in a file name share their files (`sessions_share_file`).

A run of calls is described by the stills that were written, the oldest first.  `Describes` is what
the folder and the counts are then: a file holds the last still that was written to it, and a
session's stills have the numbers from zero on.  Every call keeps it (`Describes.consume`), and
`stills_kept_iff` reads off that stills are kept apart just as long as the sessions that have
written any differ in their sanitised names.
-/
import Mathlib.Algebra.BigOperators.Group.Finset.Basic
import Mathlib.Data.Set.Function
import Mathlib.Tactic.Lemma
import SipStills.Entries
import SipStills.Sink.Folder

namespace SipStills

/-! ### File names -/

lemma valueFrom_threeDigits (n : Nat) : Text.valueFrom 0 (threeDigits n) = n := by
  have hzeros : ∀ k, Text.valueFrom 0 (List.replicate k '0') = 0 := by
    intro k
    induction k with
    | zero => rfl
    | succ k ih => rw [List.replicate_succ]; exact ih
  have hvalue := Text.valueFrom_digits n
  simp only [threeDigits, Text.valueFrom, List.foldl_append] at hzeros hvalue ⊢
  rw [hzeros, hvalue]

lemma isDigit_of_mem_threeDigits {n : Nat} {c : Char} (h : c ∈ threeDigits n) :
    Text.isDigit c = true := by
  rcases List.mem_append.1 h with h | h
  · rw [List.eq_of_mem_replicate h]
    rfl
  · exact Text.isDigit_of_mem_digits n c h

lemma dash_not_mem_threeDigits (n : Nat) : '-' ∉ threeDigits n := fun h =>
  absurd (isDigit_of_mem_threeDigits h) (by decide)

/-- The last dash of a file name stands before its number. -/
lemma append_dash_inj {xs ys ds es : List Char} (hds : '-' ∉ ds) (hes : '-' ∉ es)
    (h : xs ++ '-' :: ds = ys ++ '-' :: es) : xs = ys ∧ ds = es := by
  rcases List.append_eq_append_iff.1 h with ⟨between, hys, hrest⟩ | ⟨between, hxs, hrest⟩
  · cases between with
    | nil => exact ⟨by simpa using hys.symm, by simpa using hrest⟩
    | cons c between =>
      obtain ⟨-, hds'⟩ := List.cons.inj hrest
      exact absurd (by rw [hds']; simp) hds
  · cases between with
    | nil => exact ⟨by simpa using hxs, by simpa using hrest.symm⟩
    | cons c between =>
      obtain ⟨-, hes'⟩ := List.cons.inj hrest
      exact absurd (by rw [hes']; simp) hes

/-- A file name tells the sanitised name of the session and the number, and nothing else. -/
lemma fileName_eq_iff {callee callee' : String} {n n' : Nat} :
    fileName callee n = fileName callee' n' ↔ sanitize callee = sanitize callee' ∧ n = n' := by
  constructor
  · intro h
    have hchars := congrArg String.toList h
    simp only [fileName, String.toList_append, String.toList_ofList] at hchars
    have hparts := List.append_cancel_right hchars
    rw [List.append_assoc, List.append_assoc] at hparts
    obtain ⟨hname, hdigits⟩ := append_dash_inj (dash_not_mem_threeDigits n)
      (dash_not_mem_threeDigits n') hparts
    refine ⟨String.toList_inj.1 hname, ?_⟩
    rw [← valueFrom_threeDigits n, hdigits, valueFrom_threeDigits]
  · rintro ⟨hname, rfl⟩
    rw [fileName, fileName, hname]

/-! ### What a call changes -/

namespace Folder

lemma get?_put (f : Folder) (name other : String) (entry : FolderEntry) :
    (f.put name entry).get? other = if other = name then some entry else f.get? other := by
  rw [get?, put, erase, Entries.find?_renewed]
  split <;> rfl

/-- The names in the folder. -/
def names (f : Folder) : List String := f.entries.map (·.1)

lemma mem_names_iff {f : Folder} {name : String} : name ∈ f.names ↔ (f.get? name).isSome := by
  simp [names, get?, List.find?_isSome]

lemma nodup_names_put {f : Folder} (h : f.names.Nodup) (name : String) (entry : FolderEntry) :
    (f.put name entry).names.Nodup := by
  rw [names, put, List.map_cons, List.nodup_cons]
  constructor
  · simp [erase]
  · exact h.sublist (List.filter_sublist.map _)

/-- A file is written in its place, or nothing happens. -/
lemma eq_put_of_write? {f f' : Folder} {name : String} {data : Bytes}
    (h : f.write? name data = some f') : f' = f.put name (.file data) := by
  unfold write? at h
  split at h
  · exact absurd h (by simp)
  · split at h
    · exact absurd h (by simp)
    · exact (Option.some.inj h).symm

end Folder

/-- A still that was written. -/
structure WrittenStill where
  /-- The session that it comes from. -/
  callee : String
  /-- Its number within the session. -/
  number : Nat
  /-- The still. -/
  data : Bytes
deriving DecidableEq

/-- The name of the file that it was written to. -/
def WrittenStill.file (w : WrittenStill) : String := fileName w.callee w.number

/-- The last still that was written to a file. -/
def lastWritten (stills : List WrittenStill) (file : String) : Option WrittenStill :=
  stills.reverse.find? fun w => w.file == file

lemma lastWritten_concat (stills : List WrittenStill) (w : WrittenStill) (file : String) :
    lastWritten (stills ++ [w]) file
      = if file = w.file then some w else lastWritten stills file := by
  simp only [lastWritten, List.reverse_append, List.reverse_singleton, List.singleton_append,
    List.find?_cons]
  by_cases hfile : file = w.file
  · simp [hfile]
  · rw [if_neg hfile, beq_false_of_ne (Ne.symm hfile)]

lemma exists_lastWritten {stills : List WrittenStill} {w : WrittenStill} (hw : w ∈ stills) :
    ∃ last ∈ stills, lastWritten stills w.file = some last ∧ last.file = w.file := by
  obtain ⟨last, hlast⟩ : ∃ last, lastWritten stills w.file = some last :=
    Option.isSome_iff_exists.1 (List.find?_isSome.2 ⟨w, by simpa using hw, by simp⟩)
  exact ⟨last, by simpa using List.mem_of_find?_eq_some hlast, hlast,
    by simpa using List.find?_some hlast⟩

namespace FolderSink

/-- The sink of an empty folder. -/
def new : FolderSink := { folder := some {} }

/-- The names of the files. -/
def files (s : FolderSink) : List String := s.folder.elim [] Folder.names

/-- What is in a file. -/
def content (s : FolderSink) (file : String) : Option FolderEntry :=
  s.folder.bind fun f => f.get? file

/-- The still that a call writes, if it can be written. -/
def written? (s : FolderSink) (callee : String) (data : Bytes) : Option WrittenStill :=
  (s.folder.bind fun f => f.write? (fileName callee (s.count callee)) data).map fun _ =>
    ⟨callee, s.count callee, data⟩

/-- Takes the stills of sessions one after the other: those that were written, and the sink. -/
def consumeAll (s : FolderSink) : List (String × Bytes) → List WrittenStill × FolderSink
  | [] => ([], s)
  | (callee, data) :: calls =>
    let later := consumeAll (s.consume callee data) calls
    ((s.written? callee data).toList ++ later.1, later.2)

lemma count_setCount (s : FolderSink) (folder : Option Folder) (callee other : String) (n : Nat) :
    (⟨folder, s.setCount callee n⟩ : FolderSink).count other
      = if other = callee then n else s.count other := by
  rw [count, setCount, Entries.find?_renewed]
  split <;> rfl

/-- A call that writes nothing changes nothing. -/
lemma consume_of_written?_eq_none {s : FolderSink} {callee : String} {data : Bytes}
    (h : s.written? callee data = none) : s.consume callee data = s := by
  rw [consume, Option.map_eq_none_iff.1 h]

/-- A call that writes puts the file into the folder and counts it. -/
lemma consume_of_written?_eq_some {s : FolderSink} {callee : String} {data : Bytes}
    {w : WrittenStill} (h : s.written? callee data = some w) :
    w = ⟨callee, s.count callee, data⟩
      ∧ ∃ f, s.folder = some f
        ∧ s.consume callee data
          = ⟨some (f.put w.file (.file data)), s.setCount callee (s.count callee + 1)⟩ := by
  obtain ⟨f', hf', rfl⟩ := Option.map_eq_some_iff.1 h
  obtain ⟨f, hf, hwrite⟩ := Option.bind_eq_some_iff.1 hf'
  obtain rfl := Folder.eq_put_of_write? hwrite
  refine ⟨rfl, f, hf, ?_⟩
  rw [consume, hf']
  rfl

/-! ### What the stills written so far say -/

/-- The folder and the counts are what these stills, written one after the other, make them. -/
structure Describes (stills : List WrittenStill) (s : FolderSink) : Prop where
  content : ∀ file, s.content file = (lastWritten stills file).map fun w => .file w.data
  nodup : s.files.Nodup
  numbers : ∀ callee, (stills.filter fun w => w.callee = callee).map (·.number)
    = List.range (s.count callee)

/-- Sessions that have written any still differ in their sanitised names. -/
def Apart (s : FolderSink) : Prop := Set.InjOn sanitize {callee | 0 < s.count callee}

namespace Describes

variable {stills : List WrittenStill} {s : FolderSink}

lemma new : Describes [] new where
  content _ := rfl
  nodup := List.nodup_nil
  numbers _ := rfl

/-- A call adds the still that it writes. -/
lemma consume (h : Describes stills s) (callee : String) (data : Bytes) :
    Describes (stills ++ (s.written? callee data).toList) (s.consume callee data) := by
  cases hw : s.written? callee data with
  | none =>
    rw [consume_of_written?_eq_none hw]
    simpa using h
  | some w =>
    obtain ⟨rfl, f, hf, hconsume⟩ := consume_of_written?_eq_some hw
    rw [hconsume, Option.toList_some]
    refine ⟨fun file => ?_, ?_, fun other => ?_⟩
    · -- the new file is the last one of its name
      have hbefore := h.content file
      simp only [FolderSink.content, hf, Option.bind_some] at hbefore
      simp only [FolderSink.content, Option.bind_some, Folder.get?_put, hbefore, lastWritten_concat]
      split <;> rfl
    · have hbefore := h.nodup
      simp only [files, hf, Option.elim_some] at hbefore
      exact Folder.nodup_names_put hbefore _ _
    · rw [count_setCount, List.filter_append, List.map_append, h.numbers]
      by_cases hother : other = callee
      · rw [if_pos hother, List.range_succ, hother]
        simp
      · have hcallee : ¬ callee = other := Ne.symm hother
        simp [hother, hcallee]

lemma consumeAll (h : Describes stills s) (calls : List (String × Bytes)) :
    Describes (stills ++ (s.consumeAll calls).1) (s.consumeAll calls).2 := by
  induction calls generalizing stills s with
  | nil => simpa [FolderSink.consumeAll] using h
  | cons call calls ih =>
    have hrest := ih (h.consume call.1 call.2)
    rwa [List.append_assoc] at hrest

/-- No session writes two stills of one number. -/
lemma nodup_keys (h : Describes stills s) : (stills.map fun w => (w.callee, w.number)).Nodup := by
  rw [List.nodup_iff_sublist]
  rintro ⟨callee, n⟩ htwice
  -- the number would stand twice among the numbers of the session
  have hnumbers := ((htwice.filter fun x => decide (x.1 = callee)).map Prod.snd)
  rw [List.filter_map, List.map_map] at hnumbers
  have hrange : [n, n].Sublist (List.range (s.count callee)) := by
    rw [← h.numbers callee]
    simpa [Function.comp_def] using hnumbers
  exact List.nodup_iff_sublist.1 List.nodup_range n hrange

lemma length_filter_eq_count (h : Describes stills s) (callee : String) :
    (stills.filter fun w => w.callee = callee).length = s.count callee := by
  rw [← List.length_map (f := (·.number)), h.numbers, List.length_range]

lemma count_pos_iff (h : Describes stills s) {callee : String} :
    0 < s.count callee ↔ ∃ w ∈ stills, w.callee = callee := by
  rw [← h.length_filter_eq_count, List.length_pos_iff_exists_mem]
  simp

/-- A session that has written any still has written one of number zero. -/
lemma exists_first (h : Describes stills s) {callee : String} (hpos : 0 < s.count callee) :
    ∃ w ∈ stills, w.callee = callee ∧ w.number = 0 := by
  have hmem : 0 ∈ (stills.filter fun w => w.callee = callee).map (·.number) := by
    rw [h.numbers]
    exact List.mem_range.2 hpos
  obtain ⟨w, hw, hnumber⟩ := List.mem_map.1 hmem
  obtain ⟨hw, hcallee⟩ := List.mem_filter.1 hw
  exact ⟨w, hw, of_decide_eq_true hcallee, hnumber⟩

lemma mem_files_iff (h : Describes stills s) {file : String} :
    file ∈ s.files ↔ ∃ w ∈ stills, w.file = file := by
  have hmem : file ∈ s.files ↔ (s.content file).isSome := by
    cases hf : s.folder with
    | none => simp [files, FolderSink.content, hf]
    | some f => simp [files, FolderSink.content, hf, Folder.mem_names_iff]
  rw [hmem, h.content, Option.isSome_map, lastWritten, List.find?_isSome]
  simp

/-- There are as many files as stills exactly if all stills have files of their own. -/
lemma length_files_eq_iff (h : Describes stills s) :
    s.files.length = stills.length ↔ (stills.map (·.file)).Nodup := by
  have hsame : s.files.toFinset = (stills.map (·.file)).toFinset := by
    ext file
    simp [h.mem_files_iff]
  have hcard : s.files.length = (stills.map (·.file)).toFinset.card := by
    rw [← hsame, List.toFinset_card_of_nodup h.nodup]
  rw [hcard, ← List.length_map (f := (·.file))]
  exact Multiset.toFinset_card_eq_card_iff_nodup

/-- The counts of the sessions add up to the number of stills. -/
lemma sum_count (h : Describes stills s) {callees : Finset String}
    (hcallees : ∀ w ∈ stills, w.callee ∈ callees) :
    ∑ callee ∈ callees, s.count callee = stills.length := by
  have hcount : ∀ callee, s.count callee = (stills.map (·.callee)).count callee := by
    intro callee
    rw [← h.length_filter_eq_count, List.count, List.countP_map, List.countP_eq_length_filter]
    rfl
  have hsub : (stills.map (·.callee)).toFinset ⊆ callees := by
    intro callee hcallee
    obtain ⟨w, hw, rfl⟩ := List.mem_map.1 (List.mem_toFinset.1 hcallee)
    exact hcallees w hw
  calc ∑ callee ∈ callees, s.count callee
      = ∑ callee ∈ callees, (stills.map (·.callee)).count callee :=
        Finset.sum_congr rfl fun callee _ => hcount callee
    _ = ∑ callee ∈ (stills.map (·.callee)).toFinset, (stills.map (·.callee)).count callee := by
        refine (Finset.sum_subset hsub fun callee _ hnot => ?_).symm
        exact List.count_eq_zero.2 fun hmem => hnot (List.mem_toFinset.2 hmem)
    _ = stills.length := by rw [List.sum_toFinset_count_eq_length, List.length_map]

/-! ### Sessions that share a file -/

/-- Stills in one file come from one session if the sanitised names differ. -/
lemma callee_eq_of_file_eq (h : Describes stills s) (hapart : s.Apart) {w w' : WrittenStill}
    (hw : w ∈ stills) (hw' : w' ∈ stills) (hfile : w.file = w'.file) :
    w.callee = w'.callee ∧ w.number = w'.number := by
  obtain ⟨hname, hnumber⟩ := fileName_eq_iff.1 hfile
  have hpos : 0 < s.count w.callee := h.count_pos_iff.2 ⟨w, hw, rfl⟩
  have hpos' : 0 < s.count w'.callee := h.count_pos_iff.2 ⟨w', hw', rfl⟩
  exact ⟨hapart hpos hpos' hname, hnumber⟩

lemma file_ne_iff_apart (h : Describes stills s) :
    (∀ w ∈ stills, ∀ w' ∈ stills, w.callee ≠ w'.callee → w.file ≠ w'.file) ↔ s.Apart := by
  constructor
  · intro hne callee hpos callee' hpos' hname
    by_contra hcallee
    -- the first stills of the two sessions are in one file
    obtain ⟨w, hw, rfl, hnumber⟩ := h.exists_first hpos
    obtain ⟨w', hw', rfl, hnumber'⟩ := h.exists_first hpos'
    exact hne w hw w' hw' hcallee (fileName_eq_iff.2 ⟨hname, hnumber.trans hnumber'.symm⟩)
  · intro hapart w hw w' hw' hcallee hfile
    exact hcallee (h.callee_eq_of_file_eq hapart hw hw' hfile).1

lemma nodup_files_iff_apart (h : Describes stills s) :
    (stills.map (·.file)).Nodup ↔ s.Apart := by
  constructor
  · intro hnodup
    refine h.file_ne_iff_apart.1 fun w hw w' hw' hcallee hfile => hcallee ?_
    rw [List.inj_on_of_nodup_map hnodup hw hw' hfile]
  · intro hapart
    have hkeys := h.nodup_keys
    have hstills : stills.Nodup := hkeys.of_map
    rw [List.nodup_map_iff_inj_on hstills] at hkeys ⊢
    intro w hw w' hw' hfile
    obtain ⟨hcallee, hnumber⟩ := h.callee_eq_of_file_eq hapart hw hw' hfile
    exact hkeys w hw w' hw' (Prod.ext hcallee hnumber)

/-- A still that has a file of its own is what is in it. -/
lemma content_of_nodup (h : Describes stills s) (hnodup : (stills.map (·.file)).Nodup)
    {w : WrittenStill} (hw : w ∈ stills) : s.content w.file = some (.file w.data) := by
  rw [h.content]
  obtain ⟨last, hmem, hlast, hfile⟩ := exists_lastWritten hw
  rw [hlast, List.inj_on_of_nodup_map hnodup hmem hw hfile]
  rfl

end Describes

lemma callee_mem_of_mem_consumeAll (s : FolderSink) (calls : List (String × Bytes)) :
    ∀ w ∈ (s.consumeAll calls).1, w.callee ∈ (calls.map Prod.fst).toFinset := by
  induction calls generalizing s with
  | nil => exact fun w hw => absurd hw (by simp [consumeAll])
  | cons call calls ih =>
    intro w hw
    rw [List.map_cons, List.toFinset_cons, Finset.mem_insert]
    rcases List.mem_append.1 hw with hw | hw
    · obtain ⟨rfl, -⟩ := consume_of_written?_eq_some (Option.mem_toList.1 hw)
      exact .inl rfl
    · exact .inr (ih _ w hw)

end FolderSink

/-- What is kept of stills that are taken one after the other into an empty folder.  Every file
holds the last still that was written to it.  That different sessions write to different files, and
that there are as many files as the sessions have counted, is so exactly if the sessions that have
written any still differ in their sanitised names; then every still that was written is what its
file holds. -/
theorem stills_kept_iff (calls : List (String × Bytes)) :
    let run := FolderSink.new.consumeAll calls
    (∀ file, run.2.content file = (lastWritten run.1 file).map fun w => .file w.data)
      ∧ ((∀ w ∈ run.1, ∀ w' ∈ run.1, w.callee ≠ w'.callee → w.file ≠ w'.file) ↔ run.2.Apart)
      ∧ (run.2.files.length = ∑ callee ∈ (calls.map Prod.fst).toFinset, run.2.count callee
          ↔ run.2.Apart)
      ∧ (run.2.Apart → ∀ w ∈ run.1, run.2.content w.file = some (.file w.data)) := by
  intro run
  have h : FolderSink.Describes run.1 run.2 := FolderSink.Describes.new.consumeAll calls
  have hcallees := FolderSink.new.callee_mem_of_mem_consumeAll calls
  refine ⟨h.content, h.file_ne_iff_apart, ?_, fun hapart w hw => ?_⟩
  · rw [h.sum_count hcallees, h.length_files_eq_iff, h.nodup_files_iff_apart]
  · exact h.content_of_nodup (h.nodup_files_iff_apart.2 hapart) hw

/-- Two sessions that differ in their sanitised names, one of which has a name that is replaced. -/
theorem stills_kept_iff_two_sessions :
    let run := FolderSink.new.consumeAll [("cam-1", [1]), ("cam/2", [3]), ("cam-1", [2])]
    run.2.Apart ∧ run.2.files = ["cam-1-001.jpeg", "cam_2-000.jpeg", "cam-1-000.jpeg"]
      ∧ ∀ w ∈ run.1, run.2.content w.file = some (.file w.data) := by
  intro run
  obtain ⟨-, hne, -, hkept⟩ :=
    stills_kept_iff [("cam-1", [1]), ("cam/2", [3]), ("cam-1", [2])]
  have hapart : run.2.Apart := hne.1 (by decide +kernel)
  exact ⟨hapart, by decide +kernel, hkept hapart⟩

/-- Two sessions whose names differ in a character that has no place in a file name write to one
file: the still of the first is lost, and the counts add up to one more than there are files. -/
theorem sessions_share_file :
    let run := FolderSink.new.consumeAll [("cam/1", [1]), ("cam_1", [2])]
    run.1.map (·.callee) = ["cam/1", "cam_1"]
      ∧ run.1.map (·.file) = ["cam_1-000.jpeg", "cam_1-000.jpeg"]
      ∧ run.2.content "cam_1-000.jpeg" = some (.file [2])
      ∧ run.2.files.length = 1 ∧ run.2.count "cam/1" + run.2.count "cam_1" = 2 := by
  decide +kernel

end SipStills
