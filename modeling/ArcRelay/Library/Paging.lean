/-
Module: ArcRelay.Library.Paging
Purpose: Walks through a collection page by page: pages that each bring something new, and what
  follows a cursor in an ordered list.
Trusted boundary: none
-/
import Mathlib

namespace ArcRelay

/-!
A client that collects a peer's items asks for page after page.  Two facts about such walks do not
depend on what the items are.

A client that stops once it holds more than `limit` items has asked at most `limit + 1` times if
every page that was followed by another question brought an item it did not have: `Counted` is the
bookkeeping of that argument.

A server that keeps its items in order and answers with those after a cursor neither skips nor
repeats one, wherever it ends its pages: what follows the last item of a page is what that page
left out (`filter_after_last`).
-/

/-! ### Counting pages -/

section Counting

variable {Page : Type} {contributes : List Page → Page → Prop} {limit : Nat}

/-- Every page contributes something to those before it. -/
def Contributing (contributes : List Page → Page → Prop) (pages : List Page) : Prop :=
  ∀ before page after, pages = before ++ page :: after → contributes before page

variable {pages : List Page}

theorem Contributing.concat {page : Page} (contributing : Contributing contributes pages)
    (new : contributes pages page) : Contributing contributes (pages ++ [page]) := by
  intro before earlier after split
  rcases List.eq_nil_or_concat after with rfl | ⟨others, last, rfl⟩
  · obtain ⟨rfl, same⟩ := List.append_inj' split rfl
    cases same
    exact new
  · have same : pages ++ [page] = (before ++ earlier :: others) ++ [last] := by simp [split]
    exact contributing before earlier others (List.append_inj' same rfl).1

/-- A walk that holds `size` items after `pages`, each of which brought something new, and is
bounded to `rounds` more pages. -/
structure Counted (contributes : List Page → Page → Prop) (limit : Nat) (pages : List Page)
    (size rounds : Nat) : Prop where
  contributing : Contributing contributes pages
  counted : pages.length ≤ size
  enough : limit < rounds + pages.length

variable {size rounds : Nat}

theorem Counted.start (enough : limit < rounds) : Counted contributes limit [] 0 rounds where
  contributing := fun _ _ _ split => by simp at split
  counted := le_rfl
  enough := by simpa using enough

theorem Counted.page {page : Page} {larger : Nat}
    (counted : Counted contributes limit pages size (rounds + 1)) (new : contributes pages page)
    (grown : size < larger) : Counted contributes limit (pages ++ [page]) larger rounds where
  contributing := counted.contributing.concat new
  counted := by
    have before := counted.counted
    rw [List.length_append, List.length_singleton]
    omega
  enough := by
    have enough := counted.enough
    rw [List.length_append, List.length_singleton]
    omega

end Counting

/-! ### Pages of a list -/

section Pages

variable {Item Cursor : Type} {cursor : Item → Cursor}

/-- One page of what is left: some of it, from the front, and a cursor if there is more. -/
structure PageOf (cursor : Item → Cursor) (left sent rest : List Item) (next : Option Cursor) :
    Prop where
  split : left = sent ++ rest
  progress : left ≠ [] → sent ≠ []
  next : next = if rest = [] then none else sent.getLast?.map cursor

/-- The page of a limit. -/
theorem pageOf_take {size : Nat} (positive : 0 < size) (left : List Item) :
    PageOf cursor left (left.take size) (left.drop size)
      (if left.length > size then (left.take size).getLast?.map cursor else none) where
  split := (List.take_append_drop size left).symm
  progress := fun some empty => some ((List.take_eq_nil_iff.mp empty).resolve_left positive.ne')
  next := by
    by_cases more : left.length > size
    · rw [if_pos more, if_neg (by simpa using more)]
    · rw [if_neg more, if_pos (by simpa using more)]

/-- Where there is more, the page has a last item. -/
theorem PageOf.last {left sent rest : List Item} {next : Cursor}
    (page : PageOf cursor left sent rest (some next)) :
    ∃ front last, sent = front ++ [last] ∧ next = cursor last ∧ rest ≠ [] := by
  have more : rest ≠ [] := fun none => by simpa [none] using page.next
  have some : sent ≠ [] := page.progress (by simp [page.split, more])
  have next := page.next
  rw [if_neg more, List.getLast?_eq_getLast_of_ne_nil some, Option.map_some, Option.some.injEq]
    at next
  exact ⟨sent.dropLast, sent.getLast some, (List.dropLast_append_getLast some).symm, next, more⟩

/-- Without a cursor nothing is left out. -/
theorem PageOf.all {left sent rest : List Item} (page : PageOf cursor left sent rest none) :
    left = sent := by
  have done : rest = [] := by
    by_contra more
    have some : sent ≠ [] := page.progress (by simp [page.split, more])
    have next := page.next
    rw [if_neg more, List.getLast?_eq_getLast_of_ne_nil some] at next
    cases next
  rw [page.split, done, List.append_nil]

end Pages

/-! ### Pages of an ordered list -/

section Order

variable {Item : Type} {before : Item → Item → Prop} [DecidableRel before]

/-- A page with a last item splits what it was taken from there. -/
theorem split_at_page {items : List Item} {size : Nat} {last : Item}
    (found : (items.take size).getLast? = some last) :
    ∃ front, items.take size = front ++ [last] ∧ items = front ++ last :: items.drop size := by
  obtain ⟨front, ends⟩ := List.getLast?_eq_some_iff.mp found
  refine ⟨front, ends, ?_⟩
  calc items = items.take size ++ items.drop size := (List.take_append_drop size items).symm
    _ = front ++ last :: items.drop size := by rw [ends, List.append_assoc, List.singleton_append]

/-- What comes after the last item of a page is what the page left out. -/
theorem filter_after_last (asymmetric : ∀ first second, before first second → ¬ before second first)
    {after : Item → Bool} (closed : ∀ first second, after first → before first second → after second)
    {items front rest : List Item} {last : Item} (sorted : items.Pairwise before)
    (split : items.filter after = front ++ last :: rest) :
    items.filter (fun item => before last item) = rest := by
  have here : after last := (List.mem_filter.mp (split ▸ by simp : last ∈ items.filter after)).2
  have narrowed : items.filter (fun item => before last item) =
      (items.filter after).filter fun item => before last item := by
    rw [List.filter_filter]
    refine List.filter_congr fun item _ => ?_
    by_cases follows : before last item
    · simp [follows, closed last item here follows]
    · simp [follows]
  have ordered : (front ++ last :: rest).Pairwise before := split ▸ sorted.filter after
  rw [List.pairwise_append, List.pairwise_cons] at ordered
  obtain ⟨-, ⟨later, -⟩, earlier⟩ := ordered
  have none : front.filter (fun item => before last item) = [] := by
    refine List.filter_eq_nil_iff.mpr fun item member => ?_
    simpa using asymmetric _ _ (earlier item member last (List.mem_cons_self ..))
  have self : ¬ before last last := fun loop => asymmetric _ _ loop loop
  have all : rest.filter (fun item => before last item) = rest :=
    List.filter_eq_self.mpr fun item member => by simpa using later item member
  rw [narrowed, split, List.filter_append, none, List.filter_cons_of_neg (by simpa using self), all,
    List.nil_append]

end Order

end ArcRelay
