import Mathlib.Computability.Language
import Mathlib.Logic.Relation
import StyleObjects.Pattern

/-!
# The language of a pattern

A pattern without assertions matches the stretches of a text that belong to a language.  The
language of a sequence is the product of languages, that of a choice their sum, and that of a
repetition a star, although a repetition is explored with a set of visited places and never twice
from the same place.  A search finds the first place where such a stretch starts.

Main results:

- `explored_explore`: a repetition is explored to the end.
- `Pattern.accepts_concat`, `Pattern.accepts_optional`, `Pattern.accepts_many`: the languages of
  patterns that are put together.
- `Pattern.Accepts.findFrom_eq_some`, `Pattern.Accepts.findFrom_eq_none`: what a search finds.
-/

open scoped Computability

namespace StyleObjects

/-! ## Stretches of text -/

/-- Whether a text leads from one place to another. -/
structure Place.Spans (p : Place) (t : List Char) (q : Place) : Prop where
  rest : p.rest = t ++ q.rest
  index : q.index = p.index + t.length
  before : q.before = t.getLast?.or p.before

namespace Place.Spans

variable {p m q : Place} {t u : List Char}

theorem refl (p : Place) : p.Spans [] p := ⟨rfl, rfl, rfl⟩

theorem trans (h : p.Spans t m) (h' : m.Spans u q) : p.Spans (t ++ u) q where
  rest := by rw [h.rest, h'.rest, List.append_assoc]
  index := by rw [h'.index, h.index, List.length_append, Nat.add_assoc]
  before := by rw [h'.before, h.before, List.getLast?_append, Option.or_assoc]

/-- Places behind the same one are told apart by their numbers. -/
theorem eq_of_index (h : p.Spans t m) (h' : p.Spans u q) (hindex : m.index = q.index) : m = q := by
  have hlength : t.length = u.length := by
    have := h.index
    have := h'.index
    omega
  obtain ⟨rfl, hrest⟩ := List.append_inj (h.rest.symm.trans h'.rest) hlength
  have hbefore : m.before = q.before := h.before.trans h'.before.symm
  cases m
  cases q
  simp_all

/-- What comes next in the text can be passed over. -/
theorem exists_of_rest {rest : List Char} (h : p.rest = t ++ rest) :
    ∃ q, p.Spans t q ∧ q.rest = rest :=
  ⟨⟨p.index + t.length, t.getLast?.or p.before, rest⟩, ⟨h, rfl, rfl⟩, rfl⟩

theorem eq_of_nil (h : p.Spans [] q) : q = p :=
  h.eq_of_index (.refl p) h.index

/-- There is a place between the parts of a text. -/
theorem exists_between (h : p.Spans (t ++ u) q) : ∃ m, p.Spans t m ∧ m.Spans u q := by
  obtain ⟨m, ht, hm⟩ := exists_of_rest (h.rest.trans (List.append_assoc t u q.rest))
  obtain ⟨k, hu, _⟩ := exists_of_rest hm
  have hsame : k = q := (ht.trans hu).eq_of_index h (by rw [(ht.trans hu).index, h.index])
  exact ⟨m, ht, hsame ▸ hu⟩

/-- Behind a place there is less text, unless it is the place itself. -/
theorem length_rest_lt (h : p.Spans t q) (hne : p.index ≠ q.index) :
    q.rest.length < p.rest.length := by
  have hindex := h.index
  have hlength := congrArg List.length h.rest
  rw [List.length_append] at hlength
  omega

end Place.Spans

/-- Whether a place is the other one or lies behind it. -/
def Place.Ahead (p q : Place) : Prop := ∃ t, p.Spans t q

theorem Place.Ahead.refl (p : Place) : p.Ahead p := ⟨[], .refl p⟩

theorem Place.Ahead.trans {p m q : Place} (h : p.Ahead m) (h' : m.Ahead q) : p.Ahead q := by
  obtain ⟨t, ht⟩ := h
  obtain ⟨u, hu⟩ := h'
  exact ⟨t ++ u, ht.trans hu⟩

/-! ## Lists without repetitions -/

/-- Of the places of one text exactly those that were not visited are kept. -/
theorem mem_distinctFrom {visited : Nat} {places : List Place} {p : Place}
    (h : ∀ a ∈ places, ∀ b ∈ places, a.index = b.index → a = b) :
    p ∈ distinctFrom visited places ↔ p ∈ places ∧ visited.testBit p.index = false := by
  induction places generalizing visited with
  | nil => simp [distinctFrom]
  | cons first rest ih =>
    have htail (v : Nat) : p ∈ distinctFrom v rest ↔ p ∈ rest ∧ v.testBit p.index = false :=
      ih fun a ha b hb => h a (by simp [ha]) b (by simp [hb])
    rw [distinctFrom]
    by_cases hvisited : visited.testBit first.index = true
    · rw [if_pos hvisited, htail, List.mem_cons]
      constructor
      · rintro ⟨hp, hnew⟩
        exact ⟨.inr hp, hnew⟩
      · rintro ⟨rfl | hp, hnew⟩
        · rw [hvisited] at hnew
          cases hnew
        · exact ⟨hp, hnew⟩
    · rw [if_neg hvisited, List.mem_cons, htail, List.mem_cons, Nat.testBit_or,
        Nat.one_shiftLeft, Nat.testBit_two_pow]
      constructor
      · rintro (rfl | ⟨hp, hnew⟩)
        · exact ⟨.inl rfl, by simpa using hvisited⟩
        · exact ⟨.inr hp, (Bool.or_eq_false_iff.1 hnew).1⟩
      · rintro ⟨rfl | hp, hnew⟩
        · exact .inl rfl
        · by_cases hindex : first.index = p.index
          · exact .inl (h p (by simp [hp]) first (by simp) hindex.symm)
          · exact .inr ⟨hp, by simp [hnew, hindex]⟩

/-- Among places behind the same one, none is dropped for good. -/
theorem mem_distinct {p q : Place} {places : List Place} (h : ∀ m ∈ places, p.Ahead m) :
    q ∈ distinct places ↔ q ∈ places := by
  rw [distinct, mem_distinctFrom]
  · simp
  · intro a ha b hb hindex
    obtain ⟨t, ht⟩ := h a ha
    obtain ⟨u, hu⟩ := h b hb
    exact ht.eq_of_index hu hindex

/-! ## Exploring a repetition -/

/-- Whether a place was visited. -/
def Trail.Visited (t : Trail) (p : Place) : Prop := t.visited.testBit p.index = true

@[simp] theorem Trail.visited_add (t : Trail) (p q : Place) :
    (t.add p).Visited q ↔ t.Visited q := Iff.rfl

@[simp] theorem Trail.found_add (t : Trail) (p : Place) : (t.add p).found = p :: t.found := rfl

@[simp] theorem Trail.found_visit (t : Trail) (mark : Nat) : (t.visit mark).found = t.found := rfl

/-- Visiting a place marks no other. -/
theorem Trail.visited_visit (t : Trail) (p q : Place) :
    (t.visit p.index).Visited q ↔ t.Visited q ∨ p.index = q.index := by
  simp [Visited, visit, Nat.testBit_or, Nat.one_shiftLeft, Nat.testBit_two_pow]

section

variable (step : Place → List Place) (greedy : Bool)

/-- The number that a place is marked with when rounds are not counted. -/
def placeMark (_ : Nat) (p : Place) : Nat := p.index

/-- Explores a repetition from one place for at most `rounds` rounds after the first. -/
def exploreFrom (rounds : Nat) (t : Trail) (p : Place) : Trail :=
  if t.visited.testBit p.index then t.add p
  else if greedy then (explore step greedy placeMark rounds (step p) (t.visit p.index)).add p
  else explore step greedy placeMark rounds (step p) ((t.visit p.index).add p)

theorem explore_nil (rounds : Nat) (t : Trail) :
    explore step greedy placeMark rounds [] t = t := by
  cases rounds <;> rfl

theorem explore_zero_cons (p : Place) (places : List Place) (t : Trail) :
    explore step greedy placeMark 0 (p :: places) t =
      explore step greedy placeMark 0 places (t.add p) := rfl

/-- Places are explored one after the other. -/
theorem explore_succ_cons (rounds : Nat) (p : Place) (places : List Place) (t : Trail) :
    explore step greedy placeMark (rounds + 1) (p :: places) t =
      explore step greedy placeMark (rounds + 1) places (exploreFrom step greedy rounds t p) := rfl

/-- What is found from one place is reached through its own steps, if that holds for the places
behind. -/
theorem mem_found_exploreFrom {rounds : Nat} {q : Place}
    (hrounds : ∀ (places : List Place) (t : Trail),
      q ∈ (explore step greedy placeMark rounds places t).found →
      q ∈ t.found ∨ ∃ p ∈ places, Relation.ReflTransGen (fun a b => b ∈ step a) p q)
    {t : Trail} {p : Place} (hq : q ∈ (exploreFrom step greedy rounds t p).found) :
    q ∈ t.found ∨ Relation.ReflTransGen (fun a b => b ∈ step a) p q := by
  have hinner {t : Trail} (hq : q ∈ (explore step greedy placeMark rounds (step p) t).found) :
      q ∈ t.found ∨ Relation.ReflTransGen (fun a b => b ∈ step a) p q := by
    rcases hrounds (step p) t hq with hfound | ⟨m, hm, hreach⟩
    · exact .inl hfound
    · exact .inr (.head hm hreach)
  have hadd {t : Trail} (hq : q ∈ (t.add p).found) :
      q ∈ t.found ∨ Relation.ReflTransGen (fun a b => b ∈ step a) p q := by
    rcases List.mem_cons.1 hq with rfl | hq
    · exact .inr .refl
    · exact .inl hq
  unfold exploreFrom at hq
  split at hq
  · exact hadd hq
  · split at hq
    · rcases hadd hq with hq | hreach
      · exact hinner (t := t.visit p.index) hq
      · exact .inr hreach
    · rcases hinner hq with hq | hreach
      · exact hadd hq
      · exact .inr hreach

/-- Exploring finds nothing but what can be reached. -/
theorem mem_found_explore (rounds : Nat) (places : List Place) (t : Trail) {q : Place}
    (h : q ∈ (explore step greedy placeMark rounds places t).found) :
    q ∈ t.found ∨ ∃ p ∈ places, Relation.ReflTransGen (fun a b => b ∈ step a) p q := by
  induction rounds generalizing places t with
  | zero =>
    induction places generalizing t with
    | nil => exact .inl h
    | cons p places ih =>
      rw [explore_zero_cons] at h
      rcases ih (t.add p) h with hfound | ⟨m, hm, hreach⟩
      · rcases List.mem_cons.1 hfound with rfl | hfound
        · exact .inr ⟨q, by simp, .refl⟩
        · exact .inl hfound
      · exact .inr ⟨m, by simp [hm], hreach⟩
  | succ rounds hrounds =>
    induction places generalizing t with
    | nil => exact .inl h
    | cons p places ih =>
      rw [explore_succ_cons] at h
      rcases ih _ h with hfound | ⟨m, hm, hreach⟩
      · rcases mem_found_exploreFrom step greedy hrounds hfound with hfound | hreach
        · exact .inl hfound
        · exact .inr ⟨p, by simp, hreach⟩
      · exact .inr ⟨m, by simp [hm], hreach⟩

/-- What exploring from some places establishes.  Places that are still open are visited, but the
exploration from them goes on. -/
structure Explored (root : Place) (isOpen : Place → Prop) (places : List Place) (t t' : Trail) :
    Prop where
  visited : ∀ p, t.Visited p → t'.Visited p
  found : ∀ p ∈ t.found, p ∈ t'.found
  /-- Every visited place that is not open is an end, and its steps were visited. -/
  closed : ∀ p, root.Ahead p → t'.Visited p → ¬ isOpen p →
    p ∈ t'.found ∧ ∀ q ∈ step p, t'.Visited q
  done : ∀ p ∈ places, t'.Visited p ∧ p ∈ t'.found

variable {step greedy} {root : Place} {isOpen : Place → Prop} {places : List Place}
variable {t t' t'' : Trail} {p : Place}

namespace Explored

/-- What was explored from one place and then from others was explored from all of them. -/
theorem cons (h : Explored step root isOpen [p] t t')
    (h' : Explored step root isOpen places t' t'') :
    Explored step root isOpen (p :: places) t t'' where
  visited := fun q hq => h'.visited q (h.visited q hq)
  found := fun q hq => h'.found q (h.found q hq)
  closed := h'.closed
  done := by
    intro q hq
    rcases List.mem_cons.1 hq with rfl | hq
    · obtain ⟨hvisited, hfound⟩ := h.done q (by simp)
      exact ⟨h'.visited q hvisited, h'.found q hfound⟩
    · exact h'.done q hq

/-- A place that was visited before is an end once more. -/
theorem again (h : Explored step root isOpen [] t t) (hp : t.Visited p) :
    Explored step root isOpen [p] t (t.add p) where
  visited := fun _ hq => hq
  found := fun _ hq => List.mem_cons_of_mem _ hq
  closed := by
    intro q hahead hq hopen
    obtain ⟨hfound, hsteps⟩ := h.closed q hahead hq hopen
    exact ⟨List.mem_cons_of_mem _ hfound, hsteps⟩
  done := by
    intro q hq
    obtain rfl := List.mem_singleton.1 hq
    exact ⟨hp, List.mem_cons_self⟩

/-- A new place is open while its steps are explored. -/
theorem visit (h : Explored step root isOpen [] t t) (hahead : root.Ahead p) :
    Explored step root (fun q => isOpen q ∨ q = p) [] (t.visit p.index) (t.visit p.index) where
  visited := fun _ hq => hq
  found := fun _ hq => hq
  closed := by
    intro q hq hvisited hopen
    rw [not_or] at hopen
    rcases (t.visited_visit p q).1 hvisited with hold | hindex
    · obtain ⟨hfound, hsteps⟩ := h.closed q hq hold hopen.1
      exact ⟨hfound, fun m hm => (t.visited_visit p m).2 (.inl (hsteps m hm))⟩
    · obtain ⟨_, hs⟩ := hahead
      obtain ⟨_, hs'⟩ := hq
      exact absurd (hs'.eq_of_index hs hindex.symm) hopen.2
  done := by simp

/-- Once its steps are explored, a place is closed. -/
theorem close (h : Explored step root (fun q => isOpen q ∨ q = p) (step p) t t')
    (hvisited : t'.Visited p) (hfound : p ∈ t'.found) :
    Explored step root isOpen [p] t t' where
  visited := h.visited
  found := h.found
  closed := by
    intro q hahead hq hopen
    by_cases hqp : q = p
    · subst hqp
      exact ⟨hfound, fun m hm => (h.done m hm).1⟩
    · exact h.closed q hahead hq (by simp [hopen, hqp])
  done := by
    intro q hq
    obtain rfl := List.mem_singleton.1 hq
    exact ⟨hvisited, hfound⟩

/-- One more end may be added. -/
theorem add (h : Explored step root isOpen places t t') (p : Place) :
    Explored step root isOpen places t (t'.add p) where
  visited := h.visited
  found := fun q hq => List.mem_cons_of_mem _ (h.found q hq)
  closed := by
    intro q hahead hq hopen
    obtain ⟨hfound, hsteps⟩ := h.closed q hahead hq hopen
    exact ⟨List.mem_cons_of_mem _ hfound, hsteps⟩
  done := fun q hq => ⟨(h.done q hq).1, List.mem_cons_of_mem _ (h.done q hq).2⟩

/-- What was explored before a place was visited stays so. -/
theorem of_visit {mark : Nat} (h : Explored step root isOpen places (t.visit mark) t')
    (hmark : ∀ q, t.Visited q → (t.visit mark).Visited q) :
    Explored step root isOpen places t t' :=
  ⟨fun q hq => h.visited q (hmark q hq), h.found, h.closed, h.done⟩

end Explored

variable (step greedy root) in
/-- Whether exploring for some rounds goes to the end, from places with less text than rounds behind
them or visited before. -/
def ExploresWithin (rounds : Nat) : Prop :=
  ∀ (isOpen : Place → Prop) (places : List Place) (t : Trail),
    Explored step root isOpen [] t t → (∀ p ∈ places, root.Ahead p) →
    (∀ p ∈ places, ¬ t.Visited p → p.rest.length < rounds) →
    Explored step root isOpen places t (explore step greedy placeMark rounds places t)

/-- From one place, a repetition is explored to the end if it is from the places behind. -/
theorem explored_exploreFrom (hstep : ∀ p, ∀ q ∈ step p, p.Ahead q) {rounds : Nat}
    (hrounds : ExploresWithin step greedy root rounds) (hstart : Explored step root isOpen [] t t)
    (hp : root.Ahead p) (hlength : ¬ t.Visited p → p.rest.length < rounds + 1) :
    Explored step root isOpen [p] t (exploreFrom step greedy rounds t p) := by
  unfold exploreFrom
  split
  · rename_i hvisited
    exact hstart.again hvisited
  · rename_i hnew
    have hmark : ∀ q, t.Visited q → (t.visit p.index).Visited q :=
      fun q hq => (t.visited_visit p q).2 (.inl hq)
    have hself : (t.visit p.index).Visited p := (t.visited_visit p p).2 (.inr rfl)
    have hnext : ∀ q ∈ step p, root.Ahead q := fun q hq => hp.trans (hstep p q hq)
    -- A step that moves leaves less text behind it, and one that does not was just visited.
    have hless : ∀ q ∈ step p, ¬ (t.visit p.index).Visited q → q.rest.length < rounds := by
      intro q hq hqnew
      have hindex : p.index ≠ q.index := fun h => hqnew ((t.visited_visit p q).2 (.inr h))
      obtain ⟨v, hv⟩ := hstep p q hq
      have hbehind := hv.length_rest_lt hindex
      have hbefore := hlength hnew
      omega
    have hopen := hstart.visit hp
    split
    · have hsteps := hrounds _ _ _ hopen hnext hless
      exact ((hsteps.add p).close (hsteps.visited p hself) List.mem_cons_self).of_visit hmark
    · have hopen' := hopen.add p
      have hsteps := hrounds _ _ _ ⟨fun _ h => h, fun _ h => h, hopen'.closed, by simp⟩ hnext hless
      have hclosed := hsteps.close (hsteps.visited p hself)
        (hsteps.found p List.mem_cons_self)
      exact ⟨fun q hq => hclosed.visited q (hmark q hq),
        fun q hq => hclosed.found q (List.mem_cons_of_mem _ hq), hclosed.closed, hclosed.done⟩

/-- A repetition is explored to the end, if there are as many rounds as characters left behind the
places that are new. -/
theorem explored_explore (hstep : ∀ p, ∀ q ∈ step p, p.Ahead q) (rounds : Nat) :
    ExploresWithin step greedy root rounds := by
  induction rounds with
  | zero =>
    intro isOpen places t hstart hahead hrounds
    have hold : ∀ p ∈ places, t.Visited p := by
      intro p hp
      by_contra hnew
      exact Nat.not_lt_zero _ (hrounds p hp hnew)
    clear hahead hrounds
    induction places generalizing t with
    | nil =>
      rw [explore_nil]
      exact hstart
    | cons p places ih =>
      rw [explore_zero_cons]
      have hfirst := hstart.again (hold p (by simp))
      refine hfirst.cons (ih _ ⟨fun _ h => h, fun _ h => h, hfirst.closed, by simp⟩ ?_)
      exact fun q hq => hold q (by simp [hq])
  | succ rounds ihrounds =>
    intro isOpen places t hstart hahead hrounds
    induction places generalizing t with
    | nil =>
      rw [explore_nil]
      exact hstart
    | cons p places ih =>
      rw [explore_succ_cons]
      have hfirst := explored_exploreFrom hstep ihrounds hstart (hahead p (by simp))
        (hrounds p (by simp))
      refine hfirst.cons (ih _ ⟨fun _ h => h, fun _ h => h, hfirst.closed, by simp⟩ ?_ ?_)
      · exact fun q hq => hahead q (by simp [hq])
      · exact fun q hq hnew => hrounds q (by simp [hq]) fun h => hnew (hfirst.visited q h)

end

/-- The ends of an unbounded repetition are the places that its steps lead to. -/
theorem mem_repeatedEnds {step : Place → List Place} {greedy : Bool} {p q : Place}
    (hstep : ∀ p, ∀ q ∈ step p, p.Ahead q) :
    q ∈ repeatedEnds step 0 none greedy p ↔
      Relation.ReflTransGen (fun a b => b ∈ step a) p q := by
  have hahead {m : Place} (h : Relation.ReflTransGen (fun a b => b ∈ step a) p m) :
      p.Ahead m := by
    induction h with
    | refl => exact .refl p
    | tail _ hlast ih => exact ih.trans (hstep _ _ hlast)
  have hsound {m : Place} (hm : m ∈ (explore step greedy placeMark (p.rest.length + 1) [p]
      .empty).found) : Relation.ReflTransGen (fun a b => b ∈ step a) p m := by
    rcases mem_found_explore step greedy _ _ _ hm with hm | ⟨first, hfirst, hreach⟩
    · cases hm
    · exact List.mem_singleton.1 hfirst ▸ hreach
  have hends : q ∈ repeatedEnds step 0 none greedy p ↔
      q ∈ (explore step greedy placeMark (p.rest.length + 1) [p] .empty).found := by
    change q ∈ distinct (explore step greedy placeMark (p.rest.length + 1) [p] .empty).found.reverse ↔
      _
    rw [mem_distinct (p := p), List.mem_reverse]
    intro m hm
    exact hahead (hsound (List.mem_reverse.1 hm))
  rw [hends]
  refine ⟨hsound, ?_⟩
  intro hreach
  have hempty : Explored step p (fun _ => False) [] .empty .empty :=
    ⟨fun _ h => h, fun _ h => h, fun m _ hm => by simp [Trail.Visited, Trail.empty] at hm, by simp⟩
  have hexplored : Explored step p (fun _ => False) [p] .empty
      (explore step greedy placeMark (p.rest.length + 1) [p] .empty) :=
    explored_explore hstep (p.rest.length + 1) _ _ _ hempty (List.forall_mem_singleton.2 (.refl p))
    (List.forall_mem_singleton.2 fun _ => Nat.lt_succ_self _)
  obtain ⟨hvisited, hfound⟩ := hexplored.done p (by simp)
  -- Every visited place is closed, so that the steps of a path are visited one after the other.
  have hpath {m : Place} (h : Relation.ReflTransGen (fun a b => b ∈ step a) p m) :
      (explore step greedy placeMark (p.rest.length + 1) [p] .empty).Visited m := by
    induction h with
    | refl => exact hvisited
    | tail h hlast ih => exact (hexplored.closed _ (hahead h) ih id).2 _ hlast
  exact (hexplored.closed q (hahead hreach) (hpath hreach) id).1

/-! ## Languages -/

namespace Pattern

/-- Whether the matches of a pattern are the stretches of text that belong to a language. -/
def Accepts (x : Pattern) (L : Language Char) : Prop :=
  ∀ p q, q ∈ x.ends p ↔ ∃ t ∈ L, p.Spans t q

variable {a b x : Pattern} {L M : Language Char}

/-- A pattern moves ahead in the text. -/
theorem Accepts.ahead (h : x.Accepts L) (p : Place) : ∀ q ∈ x.ends p, p.Ahead q := by
  intro q hq
  obtain ⟨t, _, ht⟩ := (h p q).1 hq
  exact ⟨t, ht⟩

/-- A set matches each of its characters. -/
theorem accepts_one (set : CharSet) : (one set).Accepts {t | ∃ c, t = [c] ∧ set c = true} := by
  intro p q
  rw [ends]
  constructor
  · intro hq
    split at hq
    · cases hq
    · rename_i c rest hrest
      split at hq
      · rename_i hc
        obtain rfl := List.mem_singleton.1 hq
        exact ⟨[c], ⟨c, rfl, hc⟩, hrest, rfl, rfl⟩
      · cases hq
  · rintro ⟨_, ⟨c, rfl, hc⟩, hspans⟩
    obtain ⟨index, before, rest⟩ := q
    have hrest : p.rest = c :: rest := hspans.rest
    obtain rfl : index = p.index + 1 := hspans.index
    obtain rfl : before = some c := hspans.before
    rw [hrest]
    simp [hc]

/-- A sequence matches what its parts match one behind the other. -/
theorem accepts_concat (ha : a.Accepts L) (hb : b.Accepts M) : (concat a b).Accepts (L * M) := by
  intro p q
  have hahead : ∀ m ∈ (a.ends p).flatMap b.ends, p.Ahead m := by
    intro m hm
    obtain ⟨k, hk, hm⟩ := List.mem_flatMap.1 hm
    exact (ha.ahead p k hk).trans (hb.ahead k m hm)
  rw [ends, mem_distinct hahead, List.mem_flatMap]
  constructor
  · rintro ⟨m, hm, hq⟩
    obtain ⟨t, htL, ht⟩ := (ha p m).1 hm
    obtain ⟨u, huM, hu⟩ := (hb m q).1 hq
    exact ⟨t ++ u, Language.append_mem_mul htL huM, ht.trans hu⟩
  · rintro ⟨_, hmem, hspans⟩
    obtain ⟨t, htL, u, huM, rfl⟩ := Language.mem_mul.1 hmem
    obtain ⟨m, ht, hu⟩ := hspans.exists_between
    exact ⟨m, (ha p m).2 ⟨t, htL, ht⟩, (hb m q).2 ⟨u, huM, hu⟩⟩

/-- A pattern that may be left out. -/
theorem accepts_optional (ha : a.Accepts L) : (repeated a 0 (some 1) true).Accepts (1 + L) := by
  intro p q
  have hends : (repeated a 0 (some 1) true).ends p = distinct (a.ends p ++ [p]) := by
    have hround (places : List Place) (t : Trail) :
        (places.foldl Trail.add t).found = places.reverse ++ t.found := by
      induction places generalizing t with
      | nil => rfl
      | cons m places ih => simp [ih]
    simp [ends, repeatedEnds, Nat.repeat, explore, Trail.empty, hround, Trail.visit]
  have hahead : ∀ m ∈ a.ends p ++ [p], p.Ahead m := by
    intro m hm
    rcases List.mem_append.1 hm with hm | hm
    · exact ha.ahead p m hm
    · rw [List.mem_singleton.1 hm]
      exact .refl p
  rw [hends, mem_distinct hahead, List.mem_append, List.mem_singleton, ha p q]
  simp only [Language.mem_add, Language.mem_one]
  constructor
  · rintro (⟨t, ht, hspans⟩ | rfl)
    · exact ⟨t, .inr ht, hspans⟩
    · exact ⟨[], .inl rfl, .refl q⟩
  · rintro ⟨t, rfl | ht, hspans⟩
    · exact .inr hspans.eq_of_nil
    · exact .inl ⟨t, ht, hspans⟩

/-- A pattern that may be repeated at will. -/
theorem accepts_many (ha : a.Accepts L) {greedy : Bool} :
    (repeated a 0 none greedy).Accepts L∗ := by
  intro p q
  rw [ends, mem_repeatedEnds ha.ahead]
  constructor
  · intro hreach
    induction hreach with
    | refl => exact ⟨[], Language.nil_mem_kstar L, .refl p⟩
    | tail _ hlast ih =>
      obtain ⟨_, ⟨words, rfl, hwords⟩, hspans⟩ := ih
      obtain ⟨u, hu, hlast⟩ := (ha _ _).1 hlast
      refine ⟨words.flatten ++ u, ⟨words ++ [u], by simp, ?_⟩, hspans.trans hlast⟩
      intro word hword
      rcases List.mem_append.1 hword with hword | hword
      · exact hwords word hword
      · exact List.mem_singleton.1 hword ▸ hu
  · rintro ⟨_, ⟨words, rfl, hwords⟩, hspans⟩
    induction words generalizing p with
    | nil =>
      rw [hspans.eq_of_nil]
    | cons word words ih =>
      obtain ⟨m, hword, hrest⟩ := hspans.exists_between
      exact .head ((ha p m).2 ⟨word, hwords word (by simp), hword⟩)
        (ih m (fun other hother => hwords other (by simp [hother])) hrest)

/-! ## Searching -/

/-- A match at a place starts there, and its text belongs to the language. -/
theorem Accepts.matchAt_eq_some (h : x.Accepts L) {p : Place} {r : Range}
    (hr : x.matchAt p = some r) :
    ∃ t ∈ L, ∃ rest, p.rest = t ++ rest ∧ r = ⟨p.index, p.index + t.length⟩ := by
  obtain ⟨q, hq, rfl⟩ := Option.map_eq_some_iff.1 hr
  obtain ⟨t, ht, hspans⟩ := (h p q).1 (List.mem_of_head? hq)
  exact ⟨t, ht, q.rest, hspans.rest, by rw [hspans.index]⟩

/-- Without a match, no text of the language comes next. -/
theorem Accepts.matchAt_eq_none (h : x.Accepts L) {p : Place} (hp : x.matchAt p = none) :
    ∀ t ∈ L, ∀ rest, p.rest ≠ t ++ rest := by
  intro t ht rest hrest
  obtain ⟨q, hspans, _⟩ := Place.Spans.exists_of_rest hrest
  rw [matchAt, Option.map_eq_none_iff, List.head?_eq_none_iff] at hp
  have hq := (h p q).2 ⟨t, ht, hspans⟩
  rw [hp] at hq
  cases hq

/-- A search takes the first place where a text of the language starts. -/
theorem Accepts.findFrom_eq_some (h : x.Accepts L) {index : Nat} {before : Option Char}
    {s : List Char} {r : Range} (hr : x.findFrom index before s = some r) :
    ∃ front, ∃ t ∈ L, ∃ rest, s = front ++ t ++ rest ∧
      r = ⟨index + front.length, index + front.length + t.length⟩ ∧
      ∀ front', ∀ t' ∈ L, ∀ rest', s = front' ++ t' ++ rest' → front.length ≤ front'.length := by
  induction s generalizing index before with
  | nil =>
    obtain ⟨t, ht, rest, hrest, rfl⟩ := h.matchAt_eq_some hr
    exact ⟨[], t, ht, rest, hrest, by simp, by simp⟩
  | cons c s ih =>
    rw [findFrom] at hr
    split at hr
    · rename_i hit
      obtain rfl := Option.some.inj hr
      obtain ⟨t, ht, rest, hrest, rfl⟩ := h.matchAt_eq_some hit
      exact ⟨[], t, ht, rest, hrest, by simp, by simp⟩
    · rename_i hmiss
      obtain ⟨front, t, ht, rest, rfl, rfl, hfirst⟩ := ih hr
      refine ⟨c :: front, t, ht, rest, rfl, by simp [Nat.add_assoc, Nat.add_comm 1], ?_⟩
      intro front' t' ht' rest' hsplit
      cases front' with
      | nil => exact absurd hsplit (h.matchAt_eq_none hmiss t' ht' rest')
      | cons d front' =>
        exact Nat.succ_le_succ (hfirst front' t' ht' rest' (List.cons.inj hsplit).2)

/-- If nothing is found, no text of the language stands anywhere. -/
theorem Accepts.findFrom_eq_none (h : x.Accepts L) {index : Nat} {before : Option Char}
    {s : List Char} (hs : x.findFrom index before s = none) :
    ∀ front, ∀ t ∈ L, ∀ rest, s ≠ front ++ t ++ rest := by
  induction s generalizing index before with
  | nil =>
    intro front t ht rest hsplit
    obtain rfl : front = [] := by simp_all
    exact h.matchAt_eq_none hs t ht rest hsplit
  | cons c s ih =>
    rw [findFrom] at hs
    split at hs
    · cases hs
    · rename_i hmiss
      intro front t ht rest hsplit
      cases front with
      | nil => exact h.matchAt_eq_none hmiss t ht rest hsplit
      | cons d front => exact ih hs front t ht rest (List.cons.inj hsplit).2

end Pattern

end StyleObjects
