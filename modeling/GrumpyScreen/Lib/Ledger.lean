import Mathlib.Data.List.Nodup
import Mathlib.Logic.Function.Basic

/-! Requests numbered in the order they are issued, some of which wait for an
answer: an answer takes its request off the waiting ones, so that no request is
answered twice and none by another's number. -/

namespace GrumpyScreen.Lib

/-- What each request left behind for its answer, the requests still waiting and
the answers handed out. -/
structure Ledger (β : Type*) where
  requests : List (Option β) := []
  waiting : Nat → Option β := fun _ => none
  answered : List (Nat × β) := []

namespace Ledger

variable {β : Type*}

def issue (handler : Option β) (l : Ledger β) : Ledger β :=
  { l with
    requests := l.requests ++ [handler]
    waiting := Function.update l.waiting l.requests.length handler }

def answer (number : Nat) (l : Ledger β) : Ledger β :=
  match l.waiting number with
  | some handler =>
    { l with
      waiting := Function.update l.waiting number none
      answered := l.answered ++ [(number, handler)] }
  | none => l

section Waiting

variable (l : Ledger β)

@[simp] theorem issue_waiting_self (handler : Option β) :
    (l.issue handler).waiting l.requests.length = handler := Function.update_self ..

theorem issue_waiting_of_ne (handler : Option β) {n : Nat} (other : n ≠ l.requests.length) :
    (l.issue handler).waiting n = l.waiting n := Function.update_of_ne other ..

theorem answer_waiting (number : Nat) :
    (l.answer number).waiting = Function.update l.waiting number none := by
  unfold answer
  cases waiting : l.waiting number with
  | none => simp [← waiting]
  | some handler => rfl

theorem answer_requests (number : Nat) : (l.answer number).requests = l.requests := by
  unfold answer
  split <;> rfl

end Waiting

/-- Who waits was issued and is not answered; who is answered was issued, once. -/
structure Valid (l : Ledger β) : Prop where
  waits : ∀ n handler, l.waiting n = some handler → l.requests[n]? = some (some handler)
  issued : ∀ n handler, (n, handler) ∈ l.answered → l.requests[n]? = some (some handler)
  taken : ∀ n handler, (n, handler) ∈ l.answered → l.waiting n = none
  once : (l.answered.map Prod.fst).Nodup

theorem Valid.empty : Valid ({} : Ledger β) where
  waits _ _ waiting := nomatch waiting
  issued _ _ answered := nomatch answered
  taken _ _ answered := nomatch answered
  once := List.nodup_nil

variable {l : Ledger β}

theorem Valid.next_free (valid : Valid l) : l.waiting l.requests.length = none := by
  cases waiting : l.waiting l.requests.length with
  | none => rfl
  | some handler =>
    have issued := valid.waits _ _ waiting
    simp at issued

theorem Valid.issue (valid : Valid l) (handler : Option β) : Valid (l.issue handler) where
  waits n waiter waiting := by
    by_cases last : n = l.requests.length
    · subst last
      rw [issue_waiting_self] at waiting
      simp [Ledger.issue, waiting]
    · rw [issue_waiting_of_ne l handler last] at waiting
      have issued := valid.waits n waiter waiting
      exact (List.getElem?_append_left (List.getElem?_eq_some_iff.mp issued).1).trans issued
  issued n waiter answered := by
    have issued := valid.issued n waiter answered
    exact (List.getElem?_append_left (List.getElem?_eq_some_iff.mp issued).1).trans issued
  taken n waiter answered := by
    have issued := (List.getElem?_eq_some_iff.mp (valid.issued n waiter answered)).1
    exact (issue_waiting_of_ne l handler (Nat.ne_of_lt issued)).trans
      (valid.taken n waiter answered)
  once := valid.once

theorem Valid.answer (valid : Valid l) (number : Nat) : Valid (l.answer number) := by
  unfold Ledger.answer
  cases waiting : l.waiting number with
  | none => exact valid
  | some handler =>
    have unanswered : number ∉ l.answered.map Prod.fst := by
      intro member
      obtain ⟨⟨n, waiter⟩, answered, rfl⟩ := List.mem_map.mp member
      have taken := valid.taken _ _ answered
      simp [waiting] at taken
    refine ⟨fun n waiter still => ?_, fun n waiter answered => ?_, fun n waiter answered => ?_, ?_⟩
    · by_cases same : n = number
      · simp [same] at still
      · exact valid.waits n waiter (by simpa [same] using still)
    · rcases List.mem_append.mp answered with earlier | now
      · exact valid.issued n waiter earlier
      · cases List.mem_singleton.mp now
        exact valid.waits _ _ waiting
    · rcases List.mem_append.mp answered with earlier | now
      · by_cases same : n = number
        · simp [same]
        · simpa [same] using valid.taken n waiter earlier
      · cases List.mem_singleton.mp now
        simp
    · simpa [List.nodup_append] using ⟨valid.once, fun n waiter answered same =>
        unanswered (List.mem_map.mpr ⟨(n, waiter), answered, same⟩)⟩

end Ledger

end GrumpyScreen.Lib
