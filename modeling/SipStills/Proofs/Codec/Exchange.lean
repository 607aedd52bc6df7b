/-
# Exchanges with a decoder

An exchange is a call made to a decoder together with the answer to it.  A list of exchanges may be
looked at on its own: `outcome` says what the answers come to when a packet is fed, whatever decoder
has given them and in whatever way the calls came about.  Or it may be held against a decoder, which
`Answers` its calls in this way or not.  The recorded decoder keeps just the calls
(`Answers.recorded`, `Answers.of_recorded`).

The exchanges of a taking out are `takingOut`: pictures, and a last answer that is none (`Dry`).
-/
import Mathlib.Tactic.Lemma
import SipStills.Codec.Feed

namespace SipStills

variable {σ φ ε : Type}

/-! ### Exchanges -/

/-- A call made to a decoder, and the decoder's answer. -/
inductive Exchange (φ ε : Type) where
  /-- A packet is offered. -/
  | offer (packet : Bytes) (answer : Except ε (Flow Unit))
  /-- A picture is asked for. -/
  | request (answer : Except ε (Flow φ))

namespace Exchange

/-- The call without its answer. -/
def call : Exchange φ ε → DecoderCall
  | offer packet _ => .send packet
  | request _ => .receive

/-- The error that was answered. -/
def error? : Exchange φ ε → Option ε
  | offer _ (.error e) => some e
  | request (.error e) => some e
  | _ => none

/-- The picture that was answered. -/
def picture? : Exchange φ ε → Option φ
  | request (.ok (.ready picture)) => some picture
  | _ => none

/-- A packet was refused. -/
def isRefusal : Exchange φ ε → Bool
  | offer _ (.ok .again) => true
  | _ => false

/-- The decoder answered that it has ended. -/
def isEnd : Exchange φ ε → Bool
  | offer _ (.ok .eof) => true
  | request (.ok .eof) => true
  | _ => false

end Exchange

/-- An answer to a request that is no picture. -/
inductive Dry (ε : Type) where
  | failed (error : ε)
  | again
  | eof

namespace Dry

/-- The answer as a decoder gives it. -/
def answer : Dry ε → Except ε (Flow φ)
  | failed e => .error e
  | again => .ok .again
  | eof => .ok .eof

/-- No picture is ready, or none ever will be. -/
def ofEnd (ended : Bool) : Dry ε := if ended then eof else again

/-- What taking out comes to, with the newest picture so far. -/
def takenOut (latest : Option φ) : Dry ε → Except ε (Option φ × Bool)
  | failed e => .error e
  | again => .ok (latest, false)
  | eof => .ok (latest, true)

lemma takenOut_ofEnd (ended : Bool) (latest : Option φ) :
    (ofEnd ended : Dry ε).takenOut latest = .ok (latest, ended) := by
  cases ended <;> rfl

lemma eq_failed_or_ofEnd (last : Dry ε) : (∃ e, last = failed e) ∨ ∃ ended, last = ofEnd ended := by
  cases last with
  | failed e => exact .inl ⟨e, rfl⟩
  | again => exact .inr ⟨false, rfl⟩
  | eof => exact .inr ⟨true, rfl⟩

/-- What feeding comes to if this is the last answer, with the newest picture so far. -/
def settled (latest : Option φ) : Dry ε → Except (FeedFault ε) (Flow φ)
  | failed e => .error (.decoder e)
  | again => .ok (QueueDecoder.conclude latest false)
  | eof => .ok (QueueDecoder.conclude latest true)

end Dry

/-- Requests that are answered by these pictures, and the first one that is not answered by a
picture. -/
def takingOut (pictures : List φ) (last : Dry ε) : List (Exchange φ ε) :=
  pictures.map (fun picture => .request (.ok (.ready picture))) ++ [.request last.answer]

@[simp] lemma length_takingOut (pictures : List φ) (last : Dry ε) :
    (takingOut pictures last).length = pictures.length + 1 := by
  simp [takingOut]

/-- What the answers come to: an error if there is one, or if the packet was refused twice, else the
newest picture, else the end if the decoder has answered it. -/
def outcome (exchanges : List (Exchange φ ε)) : Except (FeedFault ε) (Flow φ) :=
  match (exchanges.filterMap Exchange.error?).head? with
  | some e => .error (.decoder e)
  | none =>
    if 2 ≤ exchanges.countP Exchange.isRefusal then .error .refused
    else
      match (exchanges.filterMap Exchange.picture?).getLast? with
      | some picture => .ok (.ready picture)
      | none => if exchanges.any Exchange.isEnd then .ok .eof else .ok .again

/-! ### What a decoder answers -/

namespace QueueDecoder

/-- The calls, made one after the other, are answered in this way, and lead from one state to the
other. -/
inductive Answers (d : QueueDecoder σ φ ε) : σ → List (Exchange φ ε) → σ → Prop where
  | nil (s : σ) : Answers d s [] s
  | offer {s s₁ s' : σ} {packet : Bytes} {answer : Except ε (Flow Unit)}
      {rest : List (Exchange φ ε)} (hsend : d.send packet s = (answer, s₁))
      (hrest : Answers d s₁ rest s') : Answers d s (.offer packet answer :: rest) s'
  | request {s s₁ s' : σ} {answer : Except ε (Flow φ)} {rest : List (Exchange φ ε)}
      (hreceive : d.receive s = (answer, s₁)) (hrest : Answers d s₁ rest s') :
      Answers d s (.request answer :: rest) s'

variable {d : QueueDecoder σ φ ε}

namespace Answers

lemma append {s s₁ s' : σ} {first rest : List (Exchange φ ε)} (hfirst : d.Answers s first s₁)
    (hrest : d.Answers s₁ rest s') : d.Answers s (first ++ rest) s' := by
  induction hfirst with
  | nil s => exact hrest
  | offer hsend _ ih => exact .offer hsend (ih hrest)
  | request hreceive _ ih => exact .request hreceive (ih hrest)

lemma split {s s' : σ} {first rest : List (Exchange φ ε)} (h : d.Answers s (first ++ rest) s') :
    ∃ s₁, d.Answers s first s₁ ∧ d.Answers s₁ rest s' := by
  induction first generalizing s with
  | nil => exact ⟨s, .nil s, h⟩
  | cons exchange first ih =>
    cases h with
    | offer hsend hrest =>
      obtain ⟨s₁, hfirst, hrest⟩ := ih hrest
      exact ⟨s₁, .offer hsend hfirst, hrest⟩
    | request hreceive hrest =>
      obtain ⟨s₁, hfirst, hrest⟩ := ih hrest
      exact ⟨s₁, .request hreceive hfirst, hrest⟩

/-- The recorded decoder answers as the decoder does, and keeps the calls. -/
lemma recorded {s s' : σ} {exchanges : List (Exchange φ ε)} (h : d.Answers s exchanges s')
    (before : List DecoderCall) :
    d.recorded.Answers (s, before) exchanges (s', before ++ exchanges.map Exchange.call) := by
  induction h generalizing before with
  | nil s => simpa using Answers.nil (d := d.recorded) (s, before)
  | @offer s s₁ s' packet answer rest hsend _ ih =>
    have hrest := ih (before ++ [.send packet])
    rw [List.append_assoc, List.singleton_append] at hrest
    exact .offer (by simp only [QueueDecoder.recorded, hsend]) hrest
  | @request s s₁ s' answer rest hreceive _ ih =>
    have hrest := ih (before ++ [.receive])
    rw [List.append_assoc, List.singleton_append] at hrest
    exact .request (by simp only [QueueDecoder.recorded, hreceive]) hrest

lemma of_recorded {t t' : σ × List DecoderCall} {exchanges : List (Exchange φ ε)}
    (h : d.recorded.Answers t exchanges t') :
    d.Answers t.1 exchanges t'.1 ∧ t'.2 = t.2 ++ exchanges.map Exchange.call := by
  induction h with
  | nil t => exact ⟨.nil t.1, by simp⟩
  | @offer t t₁ t' packet answer rest hsend _ ih =>
    obtain ⟨rfl, rfl⟩ := Prod.mk.inj hsend
    obtain ⟨hrest, hcalls⟩ := ih
    exact ⟨.offer rfl hrest, by simp [hcalls, Exchange.call]⟩
  | @request t t₁ t' answer rest hreceive _ ih =>
    obtain ⟨rfl, rfl⟩ := Prod.mk.inj hreceive
    obtain ⟨hrest, hcalls⟩ := ih
    exact ⟨.request rfl hrest, by simp [hcalls, Exchange.call]⟩

end Answers

end QueueDecoder

/-! ### What the answers come to -/

section Outcome

variable (pictures : List φ)

@[simp] lemma filterMap_error?_takingOut (last : Dry ε) :
    (takingOut pictures last).filterMap Exchange.error?
      = match last with | .failed e => [e] | _ => [] := by
  induction pictures with
  | nil => cases last <;> rfl
  | cons picture pictures ih => exact ih

@[simp] lemma countP_isRefusal_takingOut (last : Dry ε) :
    (takingOut pictures last).countP Exchange.isRefusal = 0 := by
  induction pictures with
  | nil => cases last <;> rfl
  | cons picture pictures ih => exact ih

@[simp] lemma filterMap_picture?_takingOut (last : Dry ε) :
    (takingOut pictures last).filterMap Exchange.picture? = pictures := by
  induction pictures with
  | nil => cases last <;> rfl
  | cons picture pictures ih => exact congrArg (picture :: ·) ih

@[simp] lemma any_isEnd_takingOut (last : Dry ε) :
    (takingOut pictures last).any Exchange.isEnd = match last with | .eof => true | _ => false := by
  induction pictures with
  | nil => cases last <;> rfl
  | cons picture pictures ih => exact ih

/-- What the answers come to if a taking out is the last of it. -/
lemma outcome_append_takingOut {front : List (Exchange φ ε)}
    (herror : front.filterMap Exchange.error? = [])
    (hrefusal : front.countP Exchange.isRefusal < 2) (hend : front.any Exchange.isEnd = false)
    (last : Dry ε) :
    outcome (front ++ takingOut pictures last)
      = last.settled (pictures.getLast?.or (front.filterMap Exchange.picture?).getLast?) := by
  have hnot : ¬ 2 ≤ front.countP Exchange.isRefusal := by omega
  simp only [outcome, List.filterMap_append, List.countP_append, List.any_append, herror, hend,
    filterMap_error?_takingOut, countP_isRefusal_takingOut, filterMap_picture?_takingOut,
    any_isEnd_takingOut, List.getLast?_append, Nat.add_zero, if_neg hnot, List.nil_append,
    Bool.false_or]
  generalize pictures.getLast?.or (front.filterMap Exchange.picture?).getLast? = latest
  cases last <;> cases latest <;> rfl

end Outcome

end SipStills
