/-
# How stills are numbered

A sink is run while its folder changes: other folders come into the way of its files and go again,
and the folder itself may be out of reach for a while.  Then writing fails, and so it does for a
name that is too long.  A run leaves the calls of the sink, the oldest first, each with its number
and whether its still was written (`SinkSite.run`).

The number of a call is the number of stills of its session that were written before (`Tells`).  So
a call that fails uses no number up, and the numbers of the stills that were written have no gap
(`map_number_written`).  Where the sessions of a run differ in their sanitised names, each of these
stills is what its file holds in the end (`stills_numbered`).
-/
import SipStills.Proofs.Sink.Folder

namespace SipStills

/-! ### Names that stay in the folder -/

/-- A name of ASCII letters, digits and four marks, of something directly in a folder. -/
structure IsPlainName (name : String) : Prop where
  chars : ∀ c ∈ name.toList, c.isAlphanum = true ∨ c ∈ ['-', '_', '.', '@']
  isEntry : name ≠ "" ∧ name ≠ "." ∧ name ≠ ".."

lemma isNameChar_iff {c : Char} :
    isNameChar c = true ↔ c.isAlphanum = true ∨ c ∈ ['-', '_', '.', '@'] := by
  simp [isNameChar]

lemma isNameChar_of_mem_sanitize {callee : String} {c : Char} (h : c ∈ (sanitize callee).toList) :
    isNameChar c = true := by
  simp only [sanitize] at h
  split at h
  · exact List.all_eq_true.1 (show "unknown".toList.all isNameChar = true by decide) c h
  · split at h
    · exact List.all_eq_true.1 (show "_".toList.all isNameChar = true by decide) c h
    · split at h
      · exact List.all_eq_true.1 (show "__".toList.all isNameChar = true by decide) c h
      · rw [String.toList_ofList, List.mem_map] at h
        obtain ⟨original, -, rfl⟩ := h
        by_cases hname : isNameChar original = true
        · rwa [if_pos hname]
        · rw [if_neg hname]
          decide

lemma isNameChar_of_isDigit {c : Char} (h : Text.isDigit c = true) : isNameChar c = true := by
  have hdigit : c.isDigit = true := by
    simpa [Text.isDigit, Char.isDigit, UInt32.le_iff_toNat_le] using h
  rw [isNameChar_iff, Char.isAlphanum, hdigit, Bool.or_true]
  exact .inl rfl

lemma isPlainName_fileName (callee : String) (n : Nat) : IsPlainName (fileName callee n) := by
  constructor
  · intro c hc
    rw [← isNameChar_iff]
    simp only [fileName, String.toList_append, String.toList_ofList, List.mem_append] at hc
    rcases hc with ((hc | hc) | hc) | hc
    · exact isNameChar_of_mem_sanitize hc
    · exact List.all_eq_true.1 (show "-".toList.all isNameChar = true by decide) c hc
    · exact isNameChar_of_isDigit (isDigit_of_mem_threeDigits hc)
    · exact List.all_eq_true.1 (show ".jpeg".toList.all isNameChar = true by decide) c hc
  · have hlength : 5 ≤ (fileName callee n).length := by
      simp only [fileName, String.length_append]
      have hending : (".jpeg" : String).length = 5 := by decide
      omega
    refine ⟨?_, ?_, ?_⟩ <;> intro hname <;> rw [hname] at hlength <;> revert hlength <;> decide

/-! ### Files and the folders beside them -/

namespace Folder

lemma get?_erase (f : Folder) (name other : String) :
    (f.erase name).get? other = if other = name then none else f.get? other := by
  rw [get?, erase, Entries.find?_without]
  split <;> rfl

/-- Making a folder leaves the files alone. -/
lemma get?_makeFolder_eq_file {f : Folder} {name file : String} {data : Bytes} :
    (f.makeFolder name).get? file = some (.file data) ↔ f.get? file = some (.file data) := by
  unfold makeFolder
  split
  · rfl
  · rename_i hfree
    rw [get?_put]
    split
    · rename_i hfile
      have hnone : f.get? name = none := by simpa using And.right (by simpa using hfree)
      simp [hfile, hnone]
    · rfl

lemma get?_removeFolder_eq_file {f : Folder} {name file : String} {data : Bytes} :
    (f.removeFolder name).get? file = some (.file data) ↔ f.get? file = some (.file data) := by
  unfold removeFolder
  split
  · rename_i hfolder
    rw [get?_erase]
    split
    · rename_i hfile
      simp [hfile, hfolder]
    · rfl
  · rfl

end Folder

/-! ### Runs -/

/-- What happens to a sink and its folder. -/
inductive SinkEvent where
  /-- A still of a session is to be written. -/
  | still (callee : String) (data : Bytes)
  /-- A folder is made inside the sink's folder. -/
  | makeFolder (name : String)
  /-- A folder inside the sink's folder is removed. -/
  | removeFolder (name : String)
  /-- The sink's folder goes out of reach. -/
  | vanish
  /-- The sink's folder is in reach again, with what it has held. -/
  | appear

/-- The session that the event is about. -/
def SinkEvent.callee? : SinkEvent → Option String
  | still callee _ => some callee
  | _ => none

/-- A call of a sink: the still under the number that is its turn, and whether it was written. -/
structure SinkCall extends WrittenStill where
  /-- The still was written. -/
  isWritten : Bool
deriving DecidableEq

/-- The calls that were about a session. -/
def callsOf (callee : String) (calls : List SinkCall) : List SinkCall :=
  calls.filter fun call => call.callee = callee

lemma callsOf_concat (callee : String) (calls : List SinkCall) (call : SinkCall) :
    callsOf callee (calls ++ [call])
      = if call.callee = callee then callsOf callee calls ++ [call] else callsOf callee calls := by
  rw [callsOf, List.filter_append, List.filter_singleton]
  split <;> simp_all [callsOf]

/-- The stills that were written. -/
def writtenIn (calls : List SinkCall) : List WrittenStill :=
  (calls.filter (·.isWritten)).map (·.toWrittenStill)

lemma writtenIn_concat (calls : List SinkCall) (call : SinkCall) :
    writtenIn (calls ++ [call])
      = if call.isWritten then writtenIn calls ++ [call.toWrittenStill] else writtenIn calls := by
  rw [writtenIn, List.filter_append, List.filter_singleton]
  split <;> simp_all [writtenIn]

/-- Each call has the number of the stills that were written before it. -/
def InTurn (calls : List SinkCall) : Prop :=
  ∀ k call, calls[k]? = some call → call.number = (calls.take k).countP (·.isWritten)

lemma inTurn_nil : InTurn [] := fun k call hcall => absurd hcall (by simp)

lemma inTurn_concat_iff {calls : List SinkCall} {call : SinkCall} :
    InTurn (calls ++ [call]) ↔ InTurn calls ∧ call.number = calls.countP (·.isWritten) := by
  constructor
  · intro h
    refine ⟨fun k earlier hk => ?_, ?_⟩
    · have hlt : k < calls.length := (List.getElem?_eq_some_iff.1 hk).1
      have hnumber := h k earlier (by rwa [List.getElem?_append_left hlt])
      rwa [List.take_append_of_le_length (Nat.le_of_lt hlt)] at hnumber
    · have hnumber := h calls.length call (by simp)
      rwa [List.take_left] at hnumber
  · rintro ⟨h, hnumber⟩ k earlier hk
    rcases Nat.lt_trichotomy k calls.length with hlt | rfl | hgt
    · rw [List.take_append_of_le_length (Nat.le_of_lt hlt)]
      exact h k earlier (by rwa [List.getElem?_append_left hlt] at hk)
    · obtain rfl : call = earlier := by simpa using hk
      rwa [List.take_left]
    · exact absurd (List.getElem?_eq_some_iff.1 hk).1 (by simp; omega)

/-- The stills that were written have the numbers from zero on. -/
lemma map_number_written {calls : List SinkCall} (h : InTurn calls) :
    (calls.filter (·.isWritten)).map (·.number)
      = List.range (calls.countP (·.isWritten)) := by
  induction calls using List.reverseRecOn with
  | nil => rfl
  | append_singleton calls call ih =>
    obtain ⟨hcalls, hnumber⟩ := inTurn_concat_iff.1 h
    rw [List.filter_append, List.map_append, ih hcalls, List.countP_append]
    cases hwritten : call.isWritten with
    | false => simp [hwritten]
    | true => simp [hwritten, hnumber, List.range_succ]

/-- A sink and its folder, which may be out of reach. -/
structure SinkSite where
  /-- What the folder holds. -/
  folder : Folder
  /-- The sink can reach the folder. -/
  isThere : Bool
  /-- The number of files written for each session. -/
  counts : List (String × Nat) := []

namespace SinkSite

/-- The sink as it is now. -/
def sink (p : SinkSite) : FolderSink where
  folder := if p.isThere then some p.folder else none
  counts := p.counts

/-- What becomes of sink and folder. -/
def step (p : SinkSite) : SinkEvent → SinkSite
  | .still callee data =>
    let s := p.sink.consume callee data
    { p with folder := s.folder.getD p.folder, counts := s.counts }
  | .makeFolder name => { p with folder := p.folder.makeFolder name }
  | .removeFolder name => { p with folder := p.folder.removeFolder name }
  | .vanish => { p with isThere := false }
  | .appear => { p with isThere := true }

/-- The call of the sink that the event is, if it is one. -/
def call? (p : SinkSite) : SinkEvent → Option SinkCall
  | .still callee data =>
    some ⟨⟨callee, p.sink.count callee, data⟩, (p.sink.written? callee data).isSome⟩
  | _ => none

/-- The events one after the other: the calls, and sink and folder in the end. -/
def run (p : SinkSite) : List SinkEvent → List SinkCall × SinkSite
  | [] => ([], p)
  | event :: events =>
    let later := (p.step event).run events
    ((p.call? event).toList ++ later.1, later.2)

/-- A call that fails changes nothing. -/
lemma step_of_written?_eq_none {p : SinkSite} {callee : String} {data : Bytes}
    (h : p.sink.written? callee data = none) : p.step (.still callee data) = p := by
  simp only [step]
  rw [FolderSink.consume_of_written?_eq_none h]
  obtain ⟨folder, isThere, counts⟩ := p
  cases isThere <;> rfl

/-- A call that does not fail writes its still and counts it. -/
lemma step_of_written?_eq_some {p : SinkSite} {callee : String} {data : Bytes} {w : WrittenStill}
    (h : p.sink.written? callee data = some w) :
    w = ⟨callee, p.sink.count callee, data⟩
      ∧ (p.step (.still callee data)).folder = p.folder.put w.file (.file data)
      ∧ ∀ other, (p.step (.still callee data)).sink.count other
        = if other = callee then p.sink.count callee + 1 else p.sink.count other := by
  obtain ⟨hw, f, hf, hconsume⟩ := FolderSink.consume_of_written?_eq_some h
  have hfolder : p.folder = f := by
    simp only [sink] at hf
    split at hf
    · exact Option.some.inj hf
    · exact absurd hf (by simp)
  refine ⟨hw, ?_, fun other => ?_⟩
  · simp only [step]
    rw [hconsume, hfolder]
    rfl
  · simp only [step]
    rw [hconsume]
    exact p.sink.count_setCount _ callee other _

lemma callee?_of_call? {p : SinkSite} {event : SinkEvent} {call : SinkCall}
    (h : p.call? event = some call) : event.callee? = some call.callee := by
  cases event with
  | still callee data =>
    obtain rfl := Option.some.inj h
    rfl
  | makeFolder name | removeFolder name => exact absurd h (by simp [call?])
  | vanish | appear => exact absurd h (by simp [call?])

lemma callee_mem_of_mem_run (p : SinkSite) (events : List SinkEvent) :
    ∀ call ∈ (p.run events).1, call.callee ∈ events.filterMap SinkEvent.callee? := by
  induction events generalizing p with
  | nil => exact fun call hcall => absurd hcall (by simp [run])
  | cons event events ih =>
    intro call hcall
    rw [List.mem_filterMap]
    rcases List.mem_append.1 hcall with hcall | hcall
    · exact ⟨event, List.mem_cons_self, callee?_of_call? (Option.mem_toList.1 hcall)⟩
    · obtain ⟨later, hlater, hcallee⟩ := List.mem_filterMap.1 (ih _ call hcall)
      exact ⟨later, List.mem_cons_of_mem _ hlater, hcallee⟩

lemma callee_mem_of_mem_writtenIn {p : SinkSite} {events : List SinkEvent} {w : WrittenStill}
    (hw : w ∈ writtenIn (p.run events).1) : w.callee ∈ events.filterMap SinkEvent.callee? := by
  obtain ⟨call, hcall, rfl⟩ := List.mem_map.1 hw
  exact p.callee_mem_of_mem_run events call (List.mem_of_mem_filter hcall)

/-! ### What the calls so far tell -/

/-- The calls tell, for a folder that has held `start` at first, the number of each call, the counts
and what is in the files now. -/
structure Tells (start : Folder) (calls : List SinkCall) (p : SinkSite) : Prop where
  number : ∀ callee, InTurn (callsOf callee calls)
  count : ∀ callee, p.sink.count callee = (callsOf callee calls).countP (·.isWritten)
  content : ∀ file data, p.folder.get? file = some (.file data)
    ↔ match lastWritten (writtenIn calls) file with
      | some w => w.data = data
      | none => start.get? file = some (.file data)

namespace Tells

variable {start : Folder} {calls : List SinkCall} {p : SinkSite}

lemma of_start (folder : Folder) (isThere : Bool) : Tells folder [] { folder, isThere } where
  number _ := inTurn_nil
  count _ := rfl
  content _ _ := Iff.rfl

/-- The calls tell of what holds the same files and has the same counts. -/
lemma congr (h : Tells start calls p) {p' : SinkSite}
    (hfiles : ∀ file data, p'.folder.get? file = some (.file data)
      ↔ p.folder.get? file = some (.file data)) (hcounts : p'.counts = p.counts) :
    Tells start calls p' where
  number := h.number
  count callee := by
    rw [← h.count, FolderSink.count, FolderSink.count, sink, sink, hcounts]
  content file data := by rw [hfiles, h.content]

/-- A call is one more to tell, and has the number that is its turn. -/
lemma still (h : Tells start calls p) (callee : String) (data : Bytes) :
    Tells start
      (calls ++ [⟨⟨callee, p.sink.count callee, data⟩, (p.sink.written? callee data).isSome⟩])
      (p.step (.still callee data)) := by
  have hnumber : ∀ other, InTurn (callsOf other (calls ++
      [⟨⟨callee, p.sink.count callee, data⟩, (p.sink.written? callee data).isSome⟩])) := by
    intro other
    rw [callsOf_concat]
    split
    · rename_i hcallee
      obtain rfl : callee = other := hcallee
      exact inTurn_concat_iff.2 ⟨h.number callee, h.count callee⟩
    · exact h.number other
  cases hw : p.sink.written? callee data with
  | none =>
    rw [hw] at hnumber
    rw [step_of_written?_eq_none hw]
    refine ⟨hnumber, fun other => ?_, fun file data' => ?_⟩
    · rw [callsOf_concat, h.count]
      split <;> simp
    · rw [writtenIn_concat, h.content]
      rfl
  | some w =>
    obtain ⟨rfl, hfolder, hcount⟩ := step_of_written?_eq_some hw
    rw [hw] at hnumber
    refine ⟨hnumber, fun other => ?_, fun file data' => ?_⟩
    · rw [callsOf_concat, hcount, h.count, h.count]
      by_cases hother : other = callee
      · simp [hother]
      · rw [if_neg hother, if_neg (Ne.symm hother)]
    · -- the still is the last one that was written to its file
      simp only [writtenIn_concat, Option.isSome_some, if_true]
      rw [lastWritten_concat, hfolder, Folder.get?_put]
      by_cases hfile : file = WrittenStill.file ⟨callee, p.sink.count callee, data⟩
      · simp [hfile]
      · rw [if_neg hfile, if_neg hfile, h.content]

/-- Every event keeps what the calls tell. -/
lemma step (h : Tells start calls p) (event : SinkEvent) :
    Tells start (calls ++ (p.call? event).toList) (p.step event) := by
  cases event with
  | still callee data => exact h.still callee data
  | makeFolder name =>
    have hsame : Tells start calls (p.step (.makeFolder name)) :=
      h.congr (fun file data => Folder.get?_makeFolder_eq_file) rfl
    simpa [call?] using hsame
  | removeFolder name =>
    have hsame : Tells start calls (p.step (.removeFolder name)) :=
      h.congr (fun file data => Folder.get?_removeFolder_eq_file) rfl
    simpa [call?] using hsame
  | vanish =>
    have hsame : Tells start calls (p.step .vanish) := h.congr (fun file data => Iff.rfl) rfl
    simpa [call?] using hsame
  | appear =>
    have hsame : Tells start calls (p.step .appear) := h.congr (fun file data => Iff.rfl) rfl
    simpa [call?] using hsame

lemma run (h : Tells start calls p) (events : List SinkEvent) :
    Tells start (calls ++ (p.run events).1) (p.run events).2 := by
  induction events generalizing calls p with
  | nil => simpa [SinkSite.run] using h
  | cons event events ih =>
    have hrest := ih (h.step event)
    rwa [List.append_assoc] at hrest

end Tells

end SinkSite

section Written

variable {calls : List SinkCall} {callee : String}

/-- The written calls of a session have its name, and their places for numbers. -/
lemma eq_of_getElem?_written (h : InTurn (callsOf callee calls)) {i : Nat} {call : SinkCall}
    (hi : ((callsOf callee calls).filter (·.isWritten))[i]? = some call) :
    call.callee = callee ∧ call.number = i := by
  constructor
  · have hmem := List.mem_of_mem_filter (List.mem_of_getElem? hi)
    simpa [callsOf] using (List.mem_filter.1 hmem).2
  · have hnumbers := congrArg (·[i]?) (map_number_written h)
    simp only [List.getElem?_map, hi, Option.map_some] at hnumbers
    obtain ⟨_, hplace⟩ := List.getElem?_eq_some_iff.1 hnumbers.symm
    simpa using hplace.symm

lemma mem_writtenIn_iff {w : WrittenStill} :
    w ∈ writtenIn calls
      ↔ ∃ call ∈ (callsOf w.callee calls).filter (·.isWritten), call.toWrittenStill = w := by
  simp only [writtenIn, callsOf, List.mem_map, List.mem_filter]
  constructor
  · rintro ⟨call, ⟨hcall, hwritten⟩, rfl⟩
    exact ⟨call, ⟨⟨hcall, by simp⟩, hwritten⟩, rfl⟩
  · rintro ⟨call, ⟨⟨hcall, -⟩, hwritten⟩, rfl⟩
    exact ⟨call, ⟨hcall, hwritten⟩, rfl⟩

/-- A still is the last one of its file if no other session writes to that file. -/
lemma lastWritten_writtenIn (hturn : ∀ callee, InTurn (callsOf callee calls))
    (hnames : ∀ w ∈ writtenIn calls, ∀ w' ∈ writtenIn calls,
      sanitize w.callee = sanitize w'.callee → w.callee = w'.callee)
    {w : WrittenStill} (hw : w ∈ writtenIn calls) :
    lastWritten (writtenIn calls) w.file = some w := by
  obtain ⟨last, hmem, hlast, hfile⟩ := exists_lastWritten hw
  obtain ⟨hname, hnumber⟩ := fileName_eq_iff.1 hfile
  have hcallee := hnames last hmem w hw hname
  -- the two stills have one place among those of their session
  obtain ⟨call, hcall, rfl⟩ := mem_writtenIn_iff.1 hw
  obtain ⟨call', hcall', rfl⟩ := mem_writtenIn_iff.1 hmem
  obtain ⟨i, hi⟩ := List.mem_iff_getElem?.1 hcall
  obtain ⟨j, hj⟩ := List.mem_iff_getElem?.1 hcall'
  rw [hcallee] at hj
  have hplace := (eq_of_getElem?_written (hturn _) hi).2
  have hplace' := (eq_of_getElem?_written (hturn _) hj).2
  obtain rfl : i = j := by rw [← hplace, ← hplace', hnumber]
  rw [hlast, Option.some.inj (hj.symm.trans hi)]

end Written

/-- The name of the file of a number: a name, a dash, at least three digits, and an ending. -/
def IsNumberedName (name : String) (n : Nat) (file : String) : Prop :=
  ∃ digits : List Char, file = name ++ "-" ++ String.ofList digits ++ ".jpeg"
    ∧ 3 ≤ digits.length ∧ (∀ c ∈ digits, Text.isDigit c = true) ∧ Text.valueFrom 0 digits = n

lemma isNumberedName_fileName (callee : String) (n : Nat) :
    IsNumberedName (sanitize callee) n (fileName callee n) := by
  refine ⟨threeDigits n, rfl, ?_, fun c => isDigit_of_mem_threeDigits, valueFrom_threeDigits n⟩
  simp only [threeDigits, List.length_append, List.length_replicate]
  omega

/-- How stills are numbered and kept, in any run of a sink whose sessions differ in their sanitised
names, over a folder that may hold anything at first.  The number of each call is how many stills of
its session were written before.  So the stills of a session that were written, of which there are
as many as it has counted, are in the files from number zero on, one after the other, and each file
holds its still in the end.  All other files are as they were, a call that fails changes nothing,
and the names of the files lead to nothing outside the folder. -/
theorem stills_numbered (folder : Folder) (isThere : Bool) (events : List SinkEvent)
    (hnames : Set.InjOn sanitize {callee | callee ∈ events.filterMap SinkEvent.callee?}) :
    let run := SinkSite.run { folder, isThere } events
    (∀ callee,
        let written := (callsOf callee run.1).filter (·.isWritten)
        InTurn (callsOf callee run.1)
          ∧ run.2.sink.count callee = written.length
          ∧ ∀ i call, written[i]? = some call →
            call.file = fileName callee i
              ∧ IsNumberedName (sanitize callee) i call.file
              ∧ run.2.folder.get? call.file = some (.file call.data))
      ∧ (∀ file, (∀ w ∈ writtenIn run.1, w.file ≠ file) → ∀ data,
          run.2.folder.get? file = some (.file data) ↔ folder.get? file = some (.file data))
      ∧ (∀ (p : SinkSite) (callee : String) (data : Bytes),
          p.sink.written? callee data = none → p.step (.still callee data) = p)
      ∧ ∀ w ∈ writtenIn run.1, IsPlainName w.file := by
  intro run
  have h : SinkSite.Tells folder run.1 run.2 := (SinkSite.Tells.of_start folder isThere).run events
  have hdiffer : ∀ w ∈ writtenIn run.1, ∀ w' ∈ writtenIn run.1,
      sanitize w.callee = sanitize w'.callee → w.callee = w'.callee :=
    fun w hw w' hw' => hnames (SinkSite.callee_mem_of_mem_writtenIn hw)
      (SinkSite.callee_mem_of_mem_writtenIn hw')
  refine ⟨fun callee => ⟨h.number callee, ?_, fun i call hcall => ?_⟩, fun file hfile data => ?_,
    fun p callee data => SinkSite.step_of_written?_eq_none,
    fun w _ => isPlainName_fileName w.callee w.number⟩
  · rw [h.count, List.countP_eq_length_filter]
  · obtain ⟨rfl, rfl⟩ := eq_of_getElem?_written (h.number callee) hcall
    refine ⟨rfl, isNumberedName_fileName _ _, ?_⟩
    have hw : call.toWrittenStill ∈ writtenIn run.1 :=
      mem_writtenIn_iff.2 ⟨call, List.mem_of_getElem? hcall, rfl⟩
    rw [h.content, lastWritten_writtenIn h.number hdiffer hw]
  · have hnone : lastWritten (writtenIn run.1) file = none := by
      rw [lastWritten, List.find?_eq_none]
      intro w hw
      simpa using hfile w (by simpa using hw)
    rw [h.content, hnone]

/-- A folder is in the way of a session's first file, and while it is there and while the sink's
folder is out of reach nothing is written; another session has a name in which a character is
replaced. -/
theorem stills_numbered_interrupted :
    let events : List SinkEvent :=
      [.vanish, .still "cam/1" [9], .appear, .makeFolder "cam_1-000.jpeg", .still "cam/1" [8],
        .removeFolder "cam_1-000.jpeg", .still "cam/1" [1], .still "cam-2" [3], .still "cam/1" [2]]
    let run := SinkSite.run { folder := {}, isThere := true } events
    Set.InjOn sanitize {callee | callee ∈ events.filterMap SinkEvent.callee?}
      ∧ (callsOf "cam/1" run.1).map (fun call => (call.number, call.isWritten))
        = [(0, false), (0, false), (0, true), (1, true)]
      ∧ run.2.folder.get? "cam_1-000.jpeg" = some (.file [1])
      ∧ run.2.folder.get? "cam_1-001.jpeg" = some (.file [2]) := by
  intro events run
  have hapart : ∀ callee ∈ events.filterMap SinkEvent.callee?,
      ∀ callee' ∈ events.filterMap SinkEvent.callee?,
        sanitize callee = sanitize callee' → callee = callee' := by decide +kernel
  have hnames : Set.InjOn sanitize {callee | callee ∈ events.filterMap SinkEvent.callee?} :=
    fun callee hcallee callee' hcallee' => hapart callee hcallee callee' hcallee'
  obtain ⟨hsessions, -⟩ := stills_numbered {} true events hnames
  obtain ⟨-, -, hfiles⟩ := hsessions "cam/1"
  have hfirst : run.2.folder.get? (fileName "cam/1" 0) = some (.file [1]) :=
    (hfiles 0 ⟨⟨"cam/1", 0, [1]⟩, true⟩ (by decide +kernel)).2.2
  have hsecond : run.2.folder.get? (fileName "cam/1" 1) = some (.file [2]) :=
    (hfiles 1 ⟨⟨"cam/1", 1, [2]⟩, true⟩ (by decide +kernel)).2.2
  rw [show fileName "cam/1" 0 = "cam_1-000.jpeg" by decide +kernel] at hfirst
  rw [show fileName "cam/1" 1 = "cam_1-001.jpeg" by decide +kernel] at hsecond
  exact ⟨hnames, by decide +kernel, hfirst, hsecond⟩

end SipStills
