import StyleObjects.Proofs.LastWrites
import StyleObjects.Proofs.WordDashes
import StyleObjects.Style.Property

/-!
# The order of properties

The lines of a declaration stand in the order of its keys, not in that of the names that are
written.  For keys in camel case the two orders are the same.  The kebab case of such a key writes a
dash and a small letter for each capital, and a dash is below all small letters as a capital is; so
the first difference of two keys decides their order before and after.

Main results:

- `CamelKey.kebabCase_key`: the kebab case of a key, written out.
- `CamelKey.kebabCase_lt_iff`: kebab case keeps the order of keys.
- `Declaration.lines_ascending`: the names of the properties of a level ascend strictly.
-/

namespace StyleObjects

/-! ## Letters -/

/-- Small letters, by their code points. -/
theorem Unicode.isLower_iff {c : Char} : c.isLower = true ↔ 97 ≤ c.toNat ∧ c.toNat ≤ 122 := by
  change (decide ('a'.val ≤ c.val) && decide (c.val ≤ 'z'.val)) = true ↔ _
  rw [Bool.and_eq_true, decide_eq_true_iff, decide_eq_true_iff, UInt32.le_iff_toNat_le,
    UInt32.le_iff_toNat_le]
  rfl

/-- Capital letters, by their code points. -/
theorem Unicode.isUpper_iff {c : Char} : c.isUpper = true ↔ 65 ≤ c.toNat ∧ c.toNat ≤ 90 := by
  change decide ('A'.val ≤ c.val ∧ c.val ≤ 'Z'.val) = true ↔ _
  rw [decide_eq_true_iff, UInt32.le_iff_toNat_le, UInt32.le_iff_toNat_le]
  rfl

namespace Unicode

/-- A table that has no code points between two bounds covers no character there. -/
theorem covered_eq_false {table : List Span} {c : Char} {low high : Nat}
    (h : ∀ s ∈ table, s.last < low ∨ high < s.first) (hc : low ≤ c.toNat ∧ c.toNat ≤ high) :
    covered table c = false := by
  rw [covered, List.any_eq_false]
  intro s hs hcovers
  have hspan := h s hs
  have hbounds := (Span.covers_iff.1 hcovers).1
  omega

theorem isLower_of_small {c : Char} (h : c.isLower = true) : isLower c = true := by
  have hcode := isLower_iff.1 h
  exact List.any_eq_true.2
    ⟨⟨0x61, 0x7A, 1⟩, List.mem_cons_self, Span.covers_iff.2 ⟨hcode, Nat.mod_one _⟩⟩

theorem isUpper_of_capital {c : Char} (h : c.isUpper = true) : isUpper c = true := by
  have hcode := isUpper_iff.1 h
  exact List.any_eq_true.2
    ⟨⟨0x41, 0x5A, 1⟩, List.mem_cons_self, Span.covers_iff.2 ⟨hcode, Nat.mod_one _⟩⟩

theorem isUpper_of_small {c : Char} (h : c.isLower = true) : isUpper c = false :=
  covered_eq_false (by decide +kernel : ∀ s ∈ uppercaseSpans, s.last < 97 ∨ 122 < s.first)
    (isLower_iff.1 h)

/-- A small letter is its own lowercase form. -/
theorem lower_of_small {c : Char} (h : c.isLower = true) : lower c = [c] := by
  have hrows : ∀ row ∈ lowercaseShifts, row.last < 97 ∨ 122 < row.first := by
    decide +kernel
  have hcode := isLower_iff.1 h
  refine lower_eq_self ?_ fun row hrow => ?_
  · rintro rfl
    revert hcode
    decide
  · have hspan := hrows row hrow
    rw [Bool.eq_false_iff]
    intro hcovers
    have hbounds := (Span.covers_iff.1 hcovers).1
    omega

/-- The lowercase form of a capital is the small letter at the same place of the alphabet. -/
theorem lower_of_capital {c : Char} (h : c.isUpper = true) :
    lower c = [Char.ofNat (c.toNat + 32)] := by
  have hcode := isUpper_iff.1 h
  have hne : c ≠ 'İ' := by
    rintro rfl
    revert hcode
    decide
  have hcovers : (⟨⟨0x41, 0x5A, 1⟩, 32⟩ : Shift).covers c.toNat = true :=
    Span.covers_iff.2 ⟨hcode, Nat.mod_one _⟩
  have hrow : lowercaseShifts.find? (·.covers c.toNat) = some ⟨⟨0x41, 0x5A, 1⟩, 32⟩ :=
    List.find?_cons_of_pos hcovers
  rw [lower, if_neg hne, shifted, hrow]
  rfl

theorem toNat_ofNat_small {n : Nat} (h : n ≤ 122) : (Char.ofNat n).toNat = n :=
  toNat_ofNat (.inl (by omega))

end Unicode

/-! ## Keys in camel case -/

/-- A capital with the small letters behind it. -/
structure Hump where
  capital : Char
  tail : List Char
  isUpper : capital.isUpper = true
  tail_ne_nil : tail ≠ []
  isLower : ∀ c ∈ tail, c.isLower = true

/-- The characters of a hump. -/
def Hump.text (h : Hump) : List Char :=
  h.capital :: h.tail

/-- A key of a property in camel case: small letters, and then humps. -/
structure CamelKey where
  first : List Char
  humps : List Hump
  first_ne_nil : first ≠ []
  isLower : ∀ c ∈ first, c.isLower = true

namespace CamelKey

/-- The characters of a key. -/
def text (k : CamelKey) : List Char :=
  k.first ++ k.humps.flatMap Hump.text

/-- The key as a text. -/
def key (k : CamelKey) : String :=
  String.ofList k.text

/-- Whether the kebab case of a key starts like a vendor prefix: the key is `webkit` with humps. -/
def IsVendor (k : CamelKey) : Prop :=
  k.first = ['w', 'e', 'b', 'k', 'i', 't'] ∧ k.humps ≠ []

end CamelKey

/-- What kebab case writes for a letter of a key in camel case. -/
def Kebab.letter (c : Char) : List Char :=
  if c.isUpper then '-' :: Unicode.lower c else [c]

/-! ## Kebab case of such keys -/

namespace Kebab

open Unicode

/-- No letter is small and capital at once. -/
theorem not_isUpper_of_isLower {c : Char} (h : c.isLower = true) : c.isUpper = false := by
  have hsmall := isLower_iff.1 h
  cases hupper : c.isUpper with
  | false => rfl
  | true =>
    have hcapital := isUpper_iff.1 hupper
    omega

/-- Small letters are written as they stand. -/
theorem flatMap_letter_small {s : List Char} (h : ∀ c ∈ s, c.isLower = true) :
    s.flatMap letter = s := by
  induction s with
  | nil => rfl
  | cons c s ih =>
    rw [List.flatMap_cons, ih fun d hd => h d (List.mem_cons_of_mem _ hd), letter,
      not_isUpper_of_isLower (h c List.mem_cons_self)]
    rfl

/-- Letters separate no words. -/
theorem not_isSeparator_of_lt {c : Char} (h : 97 ≤ c.toNat ∨ (65 ≤ c.toNat ∧ c.toNat ≤ 90)) :
    isSeparator c = false := by
  have hne {d : Char} (hd : d.toNat = 32 ∨ d.toNat = 95) : (c == d) = false := by
    rw [beq_eq_false_iff_ne]
    rintro rfl
    omega
  rw [isSeparator, hne (.inl rfl), hne (.inr rfl)]
  rfl

/-- A small letter stands for itself. -/
theorem piece_small {c : Char} (h : c.isLower = true) (previous written next : Option Char) :
    piece previous written c next = [c] := by
  have hcode := isLower_iff.1 h
  rw [piece, not_isSeparator_of_lt (.inl hcode.1), isUpper_of_small h, lower_of_small h]
  simp

/-- A capital behind a small letter starts a word. -/
theorem piece_capital {c p : Char} (h : c.isUpper = true) (hp : p.isLower = true)
    (next : Option Char) : piece (some p) (some p) c next = '-' :: lower c := by
  have hcode := isUpper_iff.1 h
  have hsmall := isLower_iff.1 hp
  have hdash : p ≠ '-' := by
    rintro rfl
    revert hsmall
    decide
  rw [piece, not_isSeparator_of_lt (.inr hcode), isUpper_of_capital h]
  simp [startsWord, isLower_of_small hp, hdash]

/-- Small letters are written one after the other, and what follows is written behind the last. -/
theorem writeFrom_small {s : List Char} (h : ∀ c ∈ s, c.isLower = true)
    (previous written : Option Char) (rest : List Char) :
    writeFrom previous written (s ++ rest) =
      s ++ writeFrom (s.getLast?.or previous) (s.getLast?.or written) rest := by
  induction s generalizing previous written with
  | nil => rfl
  | cons c s ih =>
    rw [List.cons_append, writeFrom, piece_small (h c List.mem_cons_self),
      ih fun d hd => h d (List.mem_cons_of_mem _ hd), getLast?_cons_or c s,
      getLast?_cons_or c s]
    rfl

/-- Every hump behind a small letter is a word of its own. -/
theorem writeFrom_humps {p : Char} (hp : p.isLower = true) (humps : List Hump) :
    writeFrom (some p) (some p) (humps.flatMap Hump.text) =
      (humps.flatMap Hump.text).flatMap letter := by
  induction humps generalizing p with
  | nil => rfl
  | cons hump humps ih =>
    obtain ⟨q, hlast⟩ : ∃ q, hump.tail.getLast? = some q :=
      Option.isSome_iff_exists.1 (by simpa using hump.tail_ne_nil)
    have hq : q.isLower = true := hump.isLower q (List.mem_of_getLast? hlast)
    have hletter : letter hump.capital = '-' :: lower hump.capital := by
      rw [letter, hump.isUpper, if_pos rfl]
    rw [List.flatMap_cons, Hump.text, List.cons_append, writeFrom, piece_capital hump.isUpper hp,
      writeFrom_small hump.isLower, hlast, Option.some_or, Option.some_or, ih hq,
      List.flatMap_cons, List.flatMap_append, flatMap_letter_small hump.isLower, hletter]

end Kebab

namespace CamelKey

open Unicode Kebab

variable {j k : CamelKey}

/-- The kebab case of a key in camel case has a dash and a small letter for each capital. -/
theorem kebabCase_key (k : CamelKey) : kebabCase k.key = String.ofList (k.text.flatMap letter) := by
  obtain ⟨q, hlast⟩ : ∃ q, k.first.getLast? = some q :=
    Option.isSome_iff_exists.1 (by simpa using k.first_ne_nil)
  have hq : q.isLower = true := k.isLower q (List.mem_of_getLast? hlast)
  rw [kebabCase, key, String.toList_ofList, write, text, writeFrom_small k.isLower, hlast,
    Option.some_or, writeFrom_humps hq, List.flatMap_append, flatMap_letter_small k.isLower]

/-- A camel-case key is made of letters. -/
theorem isLetter_text (k : CamelKey) : ∀ c ∈ k.text, c.isLower = true ∨ c.isUpper = true := by
  intro c hc
  rcases List.mem_append.1 hc with hc | hc
  · exact .inl (k.isLower c hc)
  · obtain ⟨hump, _, hc⟩ := List.mem_flatMap.1 hc
    rcases List.mem_cons.1 hc with rfl | hc
    · exact .inr hump.isUpper
    · exact .inl (hump.isLower c hc)

end CamelKey

/-! ## Order -/

namespace Kebab

open Unicode

theorem lt_of_toNat_lt {a b : Char} (h : a.toNat < b.toNat) : a < b := h

/-- Of two letters, what is written for the lower one is below what is written for the other,
whatever follows. -/
theorem letter_append_lt {a b : Char} (ha : a.isLower = true ∨ a.isUpper = true)
    (hb : b.isLower = true ∨ b.isUpper = true) (h : a < b) (s t : List Char) :
    letter a ++ s < letter b ++ t := by
  have hlt : a.toNat < b.toNat := h
  have hsmall {c : Char} (hc : c.isLower = true) : letter c = [c] := by
    rw [letter, not_isUpper_of_isLower hc]
    rfl
  have hcapital {c : Char} (hc : c.isUpper = true) :
      letter c = ['-', Char.ofNat (c.toNat + 32)] := by
    rw [letter, hc, if_pos rfl, lower_of_capital hc]
  rcases ha with ha | ha <;> rcases hb with hb | hb
  · rw [hsmall ha, hsmall hb]
    exact List.cons_lt_cons_iff.2 (.inl h)
  · -- No small letter is below a capital.
    have hacode := isLower_iff.1 ha
    have hbcode := isUpper_iff.1 hb
    omega
  · have hbcode := isLower_iff.1 hb
    rw [hcapital ha, hsmall hb]
    refine List.cons_lt_cons_iff.2 (.inl (lt_of_toNat_lt ?_))
    have hdash : '-'.toNat = 45 := rfl
    omega
  · have hacode := isUpper_iff.1 ha
    have hbcode := isUpper_iff.1 hb
    rw [hcapital ha, hcapital hb]
    refine List.cons_lt_cons_iff.2 (.inr ⟨rfl, List.cons_lt_cons_iff.2 (.inl ?_)⟩)
    apply lt_of_toNat_lt
    rw [toNat_ofNat_small (by omega), toNat_ofNat_small (by omega)]
    omega

/-- Writing letters keeps the order of texts: it is decided at the first difference. -/
theorem flatMap_letter_lt {s t : List Char} (hs : ∀ c ∈ s, c.isLower = true ∨ c.isUpper = true)
    (ht : ∀ c ∈ t, c.isLower = true ∨ c.isUpper = true) (h : s < t) :
    s.flatMap letter < t.flatMap letter := by
  induction s generalizing t with
  | nil =>
    cases t with
    | nil => exact absurd h (List.lt_irrefl _)
    | cons b t =>
      obtain ⟨d, rest, hletter⟩ : ∃ d rest, letter b = d :: rest := by
        unfold letter
        split <;> exact ⟨_, _, rfl⟩
      rw [List.flatMap_cons, hletter]
      exact List.nil_lt_cons _ _
  | cons a s ih =>
    cases t with
    | nil => exact absurd h (List.not_lt_nil _)
    | cons b t =>
      rw [List.flatMap_cons, List.flatMap_cons]
      rcases List.cons_lt_cons_iff.1 h with hlt | ⟨rfl, hlt⟩
      · exact letter_append_lt (hs a List.mem_cons_self) (ht b List.mem_cons_self) hlt _ _
      · exact List.append_left_lt (ih (fun c hc => hs c (List.mem_cons_of_mem _ hc))
          (fun c hc => ht c (List.mem_cons_of_mem _ hc)) hlt)

end Kebab

namespace CamelKey

variable {j k : CamelKey}

/-- Of two camel-case keys the smaller one has the smaller name. -/
theorem kebabCase_lt (h : j.key < k.key) : kebabCase j.key < kebabCase k.key := by
  rw [key, key, String.lt_iff, String.toList_ofList, String.toList_ofList] at h
  rw [kebabCase_key, kebabCase_key, String.lt_iff, String.toList_ofList, String.toList_ofList]
  exact Kebab.flatMap_letter_lt j.isLetter_text k.isLetter_text h

/-- Kebab case keeps the order of keys. -/
theorem kebabCase_lt_iff : kebabCase j.key < kebabCase k.key ↔ j.key < k.key := by
  refine ⟨fun h => ?_, kebabCase_lt⟩
  rcases Std.lt_trichotomy j.key k.key with hlt | heq | hgt
  · exact hlt
  · rw [heq] at h
    exact absurd h (String.lt_irrefl _)
  · exact absurd h (String.lt_asymm (kebabCase_lt hgt))

/-- Keys with the same kebab case are the same. -/
theorem kebabCase_inj (h : kebabCase j.key = kebabCase k.key) : j.key = k.key := by
  rcases Std.lt_trichotomy j.key k.key with hlt | heq | hgt
  · exact absurd h (String.ne_of_lt (kebabCase_lt hlt))
  · exact heq
  · exact absurd h.symm (String.ne_of_lt (kebabCase_lt hgt))

end CamelKey

/-! ## Names of properties -/

namespace Kebab

open Unicode

/-- For a letter, small letters and dashes are written. -/
theorem isLower_of_mem_letter {c d : Char} (hc : c.isLower = true ∨ c.isUpper = true)
    (h : d ∈ letter c) : d = '-' ∨ d.isLower = true := by
  rcases hc with hc | hc
  · rw [letter, not_isUpper_of_isLower hc, if_neg Bool.false_ne_true, List.mem_singleton] at h
    exact .inr (h ▸ hc)
  · rw [letter, hc, if_pos rfl, lower_of_capital hc] at h
    rcases List.mem_cons.1 h with rfl | h
    · exact .inl rfl
    · obtain rfl := List.mem_singleton.1 h
      have hcode := isUpper_iff.1 hc
      have hsmall : (Char.ofNat (c.toNat + 32)).toNat = c.toNat + 32 :=
        toNat_ofNat_small (by omega)
      exact .inr (isLower_iff.2 (by omega))

end Kebab

namespace CamelKey

open Unicode Kebab

variable {k : CamelKey}

/-- There are no dashes among letters. -/
theorem dash_notMem_of_letters {s : List Char}
    (h : ∀ c ∈ s, c.isLower = true ∨ c.isUpper = true) : '-' ∉ s := by
  intro hmem
  rcases h '-' hmem with h | h <;> revert h <;> decide

/-- The kebab case of a key has no colon. -/
theorem colon_notMem_kebabCase (k : CamelKey) : ':' ∉ (kebabCase k.key).toList := by
  rw [kebabCase_key, String.toList_ofList]
  intro hmem
  obtain ⟨c, hc, hcolon⟩ := List.mem_flatMap.1 hmem
  rcases isLower_of_mem_letter (k.isLetter_text c hc) hcolon with h | h <;> revert h <;> decide

/-- Humps are written behind a dash. -/
theorem flatMap_letter_humps {humps : List Hump} (h : humps ≠ []) :
    ∃ rest, (humps.flatMap Hump.text).flatMap letter = '-' :: rest := by
  cases humps with
  | nil => exact absurd rfl h
  | cons hump humps =>
    refine ⟨lower hump.capital ++ (hump.tail ++ humps.flatMap Hump.text).flatMap letter, ?_⟩
    rw [List.flatMap_cons, Hump.text, List.cons_append, List.flatMap_cons]
    simp only [letter, hump.isUpper, if_pos, List.cons_append]

/-- Only a vendor key is written with the start of a vendor prefix. -/
theorem keyStarts_webkit (h : ¬k.IsVendor) : keyStarts "webkit-" (kebabCase k.key) = false := by
  rw [Bool.eq_false_iff]
  intro hstarts
  rw [keyStarts, List.isPrefixOf_iff_prefix, kebabCase_key, text, List.flatMap_append,
    flatMap_letter_small k.isLower, String.toList_ofList, String.toList_ofList] at hstarts
  obtain ⟨behind, hbehind⟩ := hstarts
  have hfirst : '-' ∉ k.first := dash_notMem_of_letters fun c hc => .inl (k.isLower c hc)
  have hsplit : ['w', 'e', 'b', 'k', 'i', 't'] ++ '-' :: behind =
      k.first ++ (k.humps.flatMap Hump.text).flatMap letter := hbehind
  by_cases hhumps : k.humps = []
  · rw [hhumps, List.flatMap_nil, List.flatMap_nil, List.append_nil] at hsplit
    exact hfirst (hsplit ▸ by simp)
  · obtain ⟨rest, hrest⟩ := flatMap_letter_humps hhumps
    rw [hrest] at hsplit
    obtain ⟨hwebkit, _⟩ := Text.append_cons_inj (p := (· == '-')) hsplit (by simp)
      (fun c hc => beq_eq_false_iff_ne.2 fun heq => hfirst (heq ▸ hc)) rfl rfl
    exact h ⟨hwebkit.symm, hhumps⟩

/-- The property of a key that is no vendor key is its kebab case. -/
theorem propertyName_key (h : ¬k.IsVendor) : propertyName k.key = kebabCase k.key := by
  have hdash : '-' ∉ k.key.toList := by
    rw [key, String.toList_ofList]
    exact dash_notMem_of_letters k.isLetter_text
  rw [propertyName, if_neg hdash]
  simp [keyStarts_webkit h]

end CamelKey

/-! ## Lines of a declaration -/

/-- The name of the property of a line: what stands before the first colon. -/
def lineName (line : String) : String :=
  String.ofList (line.toList.takeWhile (· != ':'))

/-- The name of a line ends at the first colon. -/
theorem lineName_of_noColon {name value : String} (h : ':' ∉ name.toList) :
    lineName (name ++ ": " ++ value) = name := by
  have hall : ∀ c ∈ name.toList, (c != ':') = true := fun c hc =>
    bne_iff_ne.2 fun heq => h (heq ▸ hc)
  rw [lineName, String.toList_append, String.toList_append, List.append_assoc,
    List.takeWhile_append_of_pos hall]
  simp

/-- Whether an entry is a leaf with a value, other than the label. -/
def IsWritten (e : String × StyleValue) : Prop :=
  e.1 ≠ labelKey ∧ e.2.isBlock = false ∧ e.2 ≠ .undefined

instance : DecidablePred IsWritten := fun e =>
  inferInstanceAs (Decidable (e.1 ≠ labelKey ∧ e.2.isBlock = false ∧ e.2 ≠ .undefined))

/-- An entry with a value has a line that starts with the name of its property. -/
theorem propertyLine_of_isWritten {key : String} {value : StyleValue} (h : IsWritten (key, value)) :
    ∃ v, propertyLine key value = some (propertyName key ++ ": " ++ v) := by
  obtain ⟨hlabel, hleaf, hvalue⟩ := h
  have hsome : ∃ v, propertyValue key value = some v := by
    cases value with
    | undefined => exact absurd rfl hvalue
    | number x => exact ⟨_, rfl⟩
    | text s => exact ⟨_, rfl⟩
    | block body => cases hleaf
  obtain ⟨v, hv⟩ := hsome
  refine ⟨v, ?_⟩
  rw [propertyLine, if_pos (RuleKind.classify_leaf hlabel hleaf), hv]
  rfl

/-- Any other entry has no line. -/
theorem propertyLine_of_not_isWritten {key : String} {value : StyleValue}
    (h : ¬IsWritten (key, value)) : propertyLine key value = none := by
  rw [propertyLine]
  split
  · rename_i hkind
    have hlabel : key ≠ labelKey := by
      rintro rfl
      simp [RuleKind.classify] at hkind
    cases value with
    | undefined => rfl
    | block body => rfl
    | number x => exact absurd ⟨hlabel, rfl, by simp⟩ h
    | text s => exact absurd ⟨hlabel, rfl, by simp⟩ h
  · rfl

namespace Declaration

variable {d : Declaration}

/-- The keys of a declaration that have a line, in the order of the entries. -/
def writtenKeys (d : Declaration) : List String :=
  (d.entries.filter fun e => decide (IsWritten e)).map (·.1)

/-- The lines of a declaration carry the properties of its keys, in the order of the keys. -/
theorem map_lineName_lines (h : ∀ key ∈ d.writtenKeys, ':' ∉ (propertyName key).toList) :
    d.lines.map lineName = d.writtenKeys.map propertyName := by
  rw [lines]
  unfold writtenKeys at h ⊢
  generalize d.entries = entries at h ⊢
  induction entries with
  | nil => rfl
  | cons e entries ih =>
    obtain ⟨key, value⟩ := e
    by_cases hwritten : IsWritten (key, value)
    · obtain ⟨v, hv⟩ := propertyLine_of_isWritten hwritten
      rw [List.filter_cons_of_pos (by simpa using hwritten), List.map_cons,
        List.forall_mem_cons] at h
      rw [List.filter_cons_of_pos (by simpa using hwritten), List.map_cons, List.map_cons, ← ih h.2]
      simp only [List.filterMap_cons, hv, List.map_cons, lineName_of_noColon h.1]
    · rw [List.filter_cons_of_neg (by simpa using hwritten)] at h
      rw [List.filter_cons_of_neg (by simpa using hwritten), ← ih h]
      simp only [List.filterMap_cons, propertyLine_of_not_isWritten hwritten]

/-- The written keys are those of the entries that have a line. -/
theorem mem_writtenKeys {key : String} :
    key ∈ d.writtenKeys ↔ ∃ e ∈ d.entries, IsWritten e ∧ e.1 = key := by
  simp [writtenKeys, and_assoc]

/-- The written keys of an ordered declaration ascend. -/
theorem Ordered.writtenKeys_ascending (h : d.Ordered) : d.writtenKeys.Pairwise (· < ·) := by
  rw [writtenKeys, List.pairwise_map]
  exact h.ascending.filter _

/-- If the keys that have a line are in camel case and no vendor keys, the names of the properties of
a level ascend strictly, and none stands there twice.  On such keys kebab case keeps the order, both
ways, and tells them apart. -/
theorem lines_ascending (hordered : d.Ordered)
    (hkeys : ∀ e ∈ d.entries, IsWritten e → ∃ k : CamelKey, k.key = e.1 ∧ ¬k.IsVendor) :
    d.lines.map lineName = d.writtenKeys.map kebabCase ∧
    (d.lines.map lineName).Pairwise (· < ·) ∧
    (d.lines.map lineName).Nodup ∧
    ∀ j k : CamelKey, (kebabCase j.key < kebabCase k.key ↔ j.key < k.key) ∧
      (kebabCase j.key = kebabCase k.key → j.key = k.key) := by
  have hcamel : ∀ key ∈ d.writtenKeys, ∃ k : CamelKey, k.key = key ∧ ¬k.IsVendor := by
    intro key hkey
    obtain ⟨e, he, hwritten, rfl⟩ := mem_writtenKeys.1 hkey
    exact hkeys e he hwritten
  have hname : ∀ key ∈ d.writtenKeys, propertyName key = kebabCase key := by
    intro key hkey
    obtain ⟨k, rfl, hvendor⟩ := hcamel key hkey
    exact CamelKey.propertyName_key hvendor
  have hlines : d.lines.map lineName = d.writtenKeys.map kebabCase := by
    rw [map_lineName_lines, List.map_congr_left hname]
    intro key hkey
    rw [hname key hkey]
    obtain ⟨k, rfl, _⟩ := hcamel key hkey
    exact k.colon_notMem_kebabCase
  have hascending : (d.lines.map lineName).Pairwise (· < ·) := by
    rw [hlines, List.pairwise_map]
    refine hordered.writtenKeys_ascending.imp_of_mem fun {key key'} hkey hkey' hlt => ?_
    obtain ⟨j, rfl, _⟩ := hcamel key hkey
    obtain ⟨k, rfl, _⟩ := hcamel key' hkey'
    exact CamelKey.kebabCase_lt hlt
  exact ⟨hlines, hascending, hascending.imp String.ne_of_lt,
    fun _ _ => ⟨CamelKey.kebabCase_lt_iff, CamelKey.kebabCase_inj⟩⟩

/-- The entries of a level: a property, a rule, a label, an absent value under a vendor key, and
another property. -/
def sampleEntries : List (String × StyleValue) :=
  [("marginTop", .text "1px"), (":hover", .block .nil), ("label", .text "card"),
    ("webkitTransition", .undefined), ("backgroundColor", .text "#fff")]

theorem lines_ascending_sample :
    (ofList sampleEntries).Ordered ∧
    (∀ e ∈ (ofList sampleEntries).entries, IsWritten e →
      ∃ k : CamelKey, k.key = e.1 ∧ ¬k.IsVendor) ∧
    (ofList sampleEntries).lines.map lineName = ["background-color", "margin-top"] ∧
    ((ofList sampleEntries).lines.map lineName).Pairwise (· < ·) := by
  have hordered : (ofList sampleEntries).Ordered :=
    ordered_ofList (by simp [sampleEntries, StyleValue.Ordered, Ordered])
  have hkeys : ∀ e ∈ (ofList sampleEntries).entries, IsWritten e →
      ∃ k : CamelKey, k.key = e.1 ∧ ¬k.IsVendor := by
    have hentries : ∀ e ∈ (ofList sampleEntries).entries, IsWritten e →
        e.1 = "marginTop" ∨ e.1 = "backgroundColor" := by
      decide +kernel
    intro e he hwritten
    rcases hentries e he hwritten with hkey | hkey
    · exact ⟨⟨['m', 'a', 'r', 'g', 'i', 'n'],
        [⟨'T', ['o', 'p'], rfl, by decide, List.all_eq_true.1 rfl⟩], by decide,
        List.all_eq_true.1 rfl⟩, hkey.symm, fun h => absurd h.1 (by decide)⟩
    · exact ⟨⟨['b', 'a', 'c', 'k', 'g', 'r', 'o', 'u', 'n', 'd'],
        [⟨'C', ['o', 'l', 'o', 'r'], rfl, by decide, List.all_eq_true.1 rfl⟩], by decide,
        List.all_eq_true.1 rfl⟩, hkey.symm, fun h => absurd h.1 (by decide)⟩
  obtain ⟨hlines, hascending, _⟩ := lines_ascending hordered hkeys
  refine ⟨hordered, hkeys, hlines.trans ?_, hascending⟩
  decide +kernel

end Declaration

end StyleObjects
