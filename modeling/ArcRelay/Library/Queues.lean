/-
Module: ArcRelay.Library.Queues
Purpose: Loops that take items from the front of a queue while a condition holds.
Trusted boundary: none
-/
import Mathlib

namespace ArcRelay

variable {α : Type}

/-!
A `while` loop that pops the front of a queue is described by what it took.  The condition is a
function of the items taken so far, because taking them is what the loop does to the state the
condition is about.
-/

/-- From `queue` the loop took `gone` and left `rest`: it took each item while the condition
held, and ended because the condition failed or because nothing was left to take. -/
structure TakesFront (condition : List α → Bool) (queue gone rest : List α) : Prop where
  splits : queue = gone ++ rest
  needed : ∀ earlier item later, gone = earlier ++ item :: later → condition earlier = true
  stops : rest = [] ∨ condition gone = false

theorem TakesFront.nil (condition : List α → Bool) : TakesFront condition [] [] [] :=
  ⟨rfl, by simp, .inl rfl⟩

variable {condition : List α → Bool}

/-- The condition does not hold: the loop takes nothing. -/
theorem TakesFront.stop (queue : List α) (done : condition [] = false) :
    TakesFront condition queue [] queue :=
  ⟨rfl, by simp, .inr done⟩

/-- The condition holds: the loop takes the front item and goes on from there. -/
theorem TakesFront.cons {item : α} {queue gone rest : List α} (goes : condition [] = true)
    (onward : TakesFront (fun taken => condition (item :: taken)) queue gone rest) :
    TakesFront condition (item :: queue) (item :: gone) rest := by
  refine ⟨by rw [onward.splits]; rfl, ?_, onward.stops⟩
  intro earlier other later shape
  cases earlier with
  | nil => exact goes
  | cons _ earlier =>
      simp only [List.cons_append, List.cons.injEq] at shape
      rcases shape with ⟨rfl, shape⟩
      exact onward.needed earlier other later shape

/-- A front part without the last item leaves a rest that ends in it. -/
theorem exists_of_append_singleton {before front back : List α} {last : α}
    (split : before ++ [last] = front ++ back) (kept : last ∉ front) :
    ∃ rest, back = rest ++ [last] ∧ before = front ++ rest := by
  rcases List.eq_nil_or_concat back with rfl | ⟨rest, final, rfl⟩
  · rw [List.append_nil] at split
    exact absurd (split ▸ List.mem_append_right before (List.mem_singleton_self last)) kept
  · rw [List.concat_eq_append, ← List.append_assoc] at split
    rcases List.append_inj' split rfl with ⟨same, ends⟩
    rw [List.singleton_inj.mp ends]
    exact ⟨rest, List.concat_eq_append, same⟩

/-- The last item of a queue stays when the condition fails before it. -/
theorem TakesFront.keeps_last {before gone rest : List α} {last : α}
    (nodup : (before ++ [last]).Nodup) (takes : TakesFront condition (before ++ [last]) gone rest)
    (enough : condition before = false) : last ∉ gone := by
  intro member
  rcases List.append_of_mem member with ⟨earlier, later, shape⟩
  have parts : before ++ [last] = earlier ++ last :: (later ++ rest) := by
    rw [takes.splits, shape, List.append_assoc, List.cons_append]
  have fresh : last ∉ before := by
    intro other
    exact (List.nodup_append.mp nodup).2.2 last other last (List.mem_singleton_self last) rfl
  have same : before = earlier := by
    rcases List.append_eq_append_iff.mp parts with ⟨more, tail, shorter⟩ | ⟨more, tail, longer⟩
    · cases more with
      | nil => simpa using tail.symm
      | cons =>
          have lengths := congrArg List.length shorter
          simp at lengths
    · cases more with
      | nil => simpa using tail
      | cons =>
          simp only [List.cons_append, List.cons.injEq] at longer
          rcases longer with ⟨rfl, _⟩
          exact absurd (by rw [tail]; simp) fresh
  have held := takes.needed earlier last later shape
  rw [← same, enough] at held
  cases held

end ArcRelay
