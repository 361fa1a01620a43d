import Daybreak.Serial.Canonical
import Daybreak.Serial.Decoded
import Mathlib.Tactic.IntervalCases

/-! The JSON text of a value, without spaces and with all but the control characters, the
quotation mark and the backslash as they are. A text is of one value: where a token ends is
told by its own characters, and what follows it is a comma, a bracket or the end. -/

namespace Daybreak.Serial

/-! ### Writing -/

def hexDigit (n : ℕ) : Char := Nat.digitChar n

/-- The control characters that have a letter of their own. -/
def shortEscapes : List (Char × Char) :=
  [('"', '"'), ('\\', '\\'), ('\n', 'n'), ('\r', 'r'), ('\t', 't'), ('\x08', 'b'), ('\x0c', 'f')]

/-- A character of a text between quotation marks. -/
def escaped (c : Char) : List Char :=
  match shortEscapes.lookup c with
  | some letter => ['\\', letter]
  | none =>
    if c.toNat < 32 then
      ['\\', 'u', '0', '0', hexDigit (c.toNat / 16), hexDigit (c.toNat % 16)]
    else [c]

def quoted (text : String) : List Char := '"' :: (text.toList.flatMap escaped ++ ['"'])

namespace Decoded

mutual

/-- `json.dumps(value, ensure_ascii=False, separators=(",", ":"))` -/
def chars : Decoded → List Char
  | .none => ['n', 'u', 'l', 'l']
  | .bool true => ['t', 'r', 'u', 'e']
  | .bool false => ['f', 'a', 'l', 's', 'e']
  | .int n => (toString n).toList
  | .float x => x.text.toList
  | .str s => quoted s
  | .list items => '[' :: (itemsChars items ++ [']'])
  | .dict items => '{' :: (entriesChars items ++ ['}'])

def itemsChars : List Decoded → List Char
  | [] => []
  | item :: items => item.chars ++ laterItems items

def laterItems : List Decoded → List Char
  | [] => []
  | item :: items => ',' :: (item.chars ++ laterItems items)

def entriesChars : List (String × Decoded) → List Char
  | [] => []
  | (key, item) :: items => quoted key ++ ':' :: (item.chars ++ laterEntries items)

def laterEntries : List (String × Decoded) → List Char
  | [] => []
  | (key, item) :: items => ',' :: (quoted key ++ ':' :: (item.chars ++ laterEntries items))

end

def dumps (v : Decoded) : String := String.ofList v.chars

end Decoded

example : (Decoded.dict [("a", .list [.int (-1), .none]), ("b\n", .str "\x01\"")]).dumps =
    "\x7b\"a\":[-1,null],\"b\\n\":\"\\u0001\\\"\"\x7d" := by decide

/-! ### Texts between quotation marks -/

def hexValue (c : Char) : ℕ := if c.isDigit then c.toNat - 48 else c.toNat - 87

/-- The first character of what is between quotation marks, and what follows it. -/
def unescape : List Char → Option (Char × List Char)
  | '\\' :: 'u' :: '0' :: '0' :: high :: low :: rest =>
    some (Char.ofNat (16 * hexValue high + hexValue low), rest)
  | '\\' :: letter :: rest =>
    (shortEscapes.find? (·.2 = letter)).map fun escape => (escape.1, rest)
  | c :: rest => some (c, rest)
  | [] => none

/-- A character is escaped by a letter, by its number, or not at all. -/
theorem escaped_cases (c : Char) : (c, escaped c) ∈ shortEscapes.map (fun e => (e.1, ['\\', e.2])) ∨
    (∃ n < 32, c = Char.ofNat n ∧ escaped c = ['\\', 'u', '0', '0', hexDigit (n / 16), hexDigit (n % 16)]) ∨
    (c ≠ '\\' ∧ c ≠ '"' ∧ escaped c = [c]) := by
  unfold escaped
  split
  · rename_i letter hLetter
    left
    rw [List.lookup_eq_some_iff] at hLetter
    obtain ⟨before, after, hTable, -⟩ := hLetter
    exact List.mem_map_of_mem (hTable ▸ List.mem_append_right _ List.mem_cons_self :
      (c, letter) ∈ shortEscapes)
  · rename_i hNone
    right
    split_ifs with hControl
    · exact .inl ⟨c.toNat, hControl, (Char.ofNat_toNat c).symm, rfl⟩
    · refine .inr ⟨?_, ?_, rfl⟩
      · rintro rfl
        cases hNone
      · rintro rfl
        cases hNone

theorem unescape_escaped (c : Char) (rest : List Char) :
    unescape (escaped c ++ rest) = some (c, rest) := by
  rcases escaped_cases c with hShort | ⟨n, hn, rfl, hEscaped⟩ | ⟨hSlash, -, hEscaped⟩
  · simp only [shortEscapes, List.map_cons, List.map_nil, List.mem_cons, Prod.mk.injEq,
      List.not_mem_nil, or_false] at hShort
    rcases hShort with ⟨rfl, h⟩ | ⟨rfl, h⟩ | ⟨rfl, h⟩ | ⟨rfl, h⟩ | ⟨rfl, h⟩ | ⟨rfl, h⟩ | ⟨rfl, h⟩ <;>
      rw [h] <;> rfl
  · rw [hEscaped]
    interval_cases n <;> rfl
  · rw [hEscaped, List.singleton_append, unescape]
    all_goals simp [hSlash]

theorem head_escaped_ne (c : Char) (rest tail : List Char) : escaped c ++ rest ≠ '"' :: tail := by
  rcases escaped_cases c with hShort | ⟨n, hn, rfl, hEscaped⟩ | ⟨-, hQuote, hEscaped⟩
  · obtain ⟨e, -, he⟩ := List.mem_map.mp hShort
    rw [← (Prod.mk.inj he).2]
    simp
  · rw [hEscaped]
    simp
  · rw [hEscaped]
    simp [hQuote]

theorem escaped_inj {as bs rest rest' : List Char}
    (h : as.flatMap escaped ++ '"' :: rest = bs.flatMap escaped ++ '"' :: rest') :
    as = bs ∧ rest = rest' := by
  induction as generalizing bs with
  | nil =>
    cases bs with
    | nil => exact ⟨rfl, (List.cons.inj h).2⟩
    | cons b bs =>
      rw [List.flatMap_cons, List.append_assoc] at h
      exact absurd h.symm (head_escaped_ne b _ _)
  | cons a as ih =>
    cases bs with
    | nil =>
      rw [List.flatMap_cons, List.append_assoc] at h
      exact absurd h (head_escaped_ne a _ _)
    | cons b bs =>
      rw [List.flatMap_cons, List.flatMap_cons, List.append_assoc, List.append_assoc] at h
      have hFirst := congrArg unescape h
      rw [unescape_escaped, unescape_escaped] at hFirst
      obtain ⟨rfl, hTail⟩ := Prod.mk.inj (Option.some.inj hFirst)
      obtain ⟨rfl, hRest⟩ := ih hTail
      exact ⟨rfl, hRest⟩

theorem quoted_inj {s t : String} {rest rest' : List Char}
    (h : quoted s ++ rest = quoted t ++ rest') : s = t ∧ rest = rest' := by
  simp only [quoted, List.cons_append, List.append_assoc, List.nil_append] at h
  obtain ⟨hText, hRest⟩ := escaped_inj (List.cons.inj h).2
  exact ⟨String.toList_injective hText, hRest⟩

/-! ### Numbers -/

/-- What may follow a value. -/
def Closed (rest : List Char) : Prop := ∀ c ∈ rest.head?, c ∈ [',', ']', '}']

theorem Closed.isFloatChar {rest : List Char} (h : Closed rest) :
    ∀ c ∈ rest.head?, isFloatChar c = false := by
  intro c hc
  have hMark := h c hc
  simp only [List.mem_cons, List.not_mem_nil, or_false] at hMark
  rcases hMark with rfl | rfl | rfl <;> decide

/-- The characters of a kind are told from what follows them. -/
theorem token_inj {p : Char → Bool} {as bs rest rest' : List Char} (ha : ∀ c ∈ as, p c = true)
    (hb : ∀ c ∈ bs, p c = true) (hRest : ∀ c ∈ rest.head?, p c = false)
    (hRest' : ∀ c ∈ rest'.head?, p c = false) (h : as ++ rest = bs ++ rest') :
    as = bs ∧ rest = rest' := by
  have hTake {xs tail : List Char} (hx : ∀ c ∈ xs, p c = true)
      (hTail : ∀ c ∈ tail.head?, p c = false) : (xs ++ tail).takeWhile p = xs := by
    rw [List.takeWhile_append_of_pos hx]
    cases tail with
    | nil => simp
    | cons c tail => simp [hTail c rfl]
  have hTokens := congrArg (List.takeWhile p) h
  rw [hTake ha hRest, hTake hb hRest'] at hTokens
  subst hTokens
  exact ⟨rfl, List.append_cancel_left h⟩

theorem isFloatChar_of_isDigit {c : Char} (h : c.isDigit = true) : isFloatChar c = true :=
  Bool.or_eq_true_iff.mpr (.inl h)

/-- An integer is written with a sign and digits. -/
theorem toList_toString_int (n : ℤ) :
    (toString n).toList = if n < 0 then '-' :: (toString n.natAbs).toList
      else (toString n.natAbs).toList := by
  cases n with
  | ofNat m => rfl
  | negSucc m =>
    have hText : toString (Int.negSucc m) = "-" ++ toString (m + 1) := rfl
    rw [if_pos (Int.negSucc_lt_zero m), hText, String.toList_append]
    rfl

theorem isFloatChar_int {n : ℤ} {c : Char} (h : c ∈ (toString n).toList) :
    isFloatChar c = true ∧ c ∉ ['.', 'e'] := by
  have hDigit (hc : c.isDigit = true) : isFloatChar c = true ∧ c ∉ ['.', 'e'] := by
    refine ⟨isFloatChar_of_isDigit hc, ?_⟩
    simp only [List.mem_cons, List.not_mem_nil, or_false]
    rintro (rfl | rfl) <;> cases hc
  rw [toList_toString_int] at h
  split_ifs at h
  · rcases List.mem_cons.mp h with rfl | h
    · decide
    · exact hDigit (isDigit_of_mem_toString h)
  · exact hDigit (isDigit_of_mem_toString h)

theorem int_toString_injective {m n : ℤ} (h : (toString m).toList = (toString n).toList) :
    m = n := by
  have hDigits (k : ℕ) (cs : List Char) : '-' :: cs ≠ (toString k).toList := by
    intro hk
    have hDigit := isDigit_of_mem_toString (hk ▸ List.mem_cons_self : '-' ∈ (toString k).toList)
    cases hDigit
  have hAbs {k l : ℕ} (hkl : (toString k).toList = (toString l).toList) : k = l := by
    have hValue := congrArg (Nat.ofDigitChars 10 · 0) hkl
    simpa using hValue
  rw [toList_toString_int, toList_toString_int] at h
  split_ifs at h with hm hn hn
  · have hValues := hAbs (List.cons.inj h).2
    omega
  · exact absurd h (hDigits _ _)
  · exact absurd h.symm (hDigits _ _)
  · have hValues := hAbs h
    omega

theorem PyFloat.isFloatText {x : PyFloat} (h : x.isfinite = true) : isFloatText x.text = true :=
  x.wellFormed.resolve_left (of_decide_eq_true h)

theorem isFloatChar_float {x : PyFloat} (h : x.isfinite = true) {c : Char}
    (hc : c ∈ x.text.toList) : isFloatChar c = true := by
  have hText := PyFloat.isFloatText h
  rw [Serial.isFloatText, Bool.and_eq_true] at hText
  exact List.all_eq_true.mp hText.1 c hc

/-- A double is not written as an integer. -/
theorem int_ne_float {n : ℤ} {x : PyFloat} (h : x.isfinite = true) :
    (toString n).toList ≠ x.text.toList := by
  intro hText
  have hMark := PyFloat.isFloatText h
  rw [Serial.isFloatText, Bool.and_eq_true, ← hText, List.any_eq_true] at hMark
  obtain ⟨-, c, hc, hPoint⟩ := hMark
  exact (isFloatChar_int hc).2 (of_decide_eq_true hPoint)

/-! ### Values -/

namespace Decoded

/-- The kinds of values that the first character of a text tells apart. -/
inductive Kind where
  | none | true | false | number | str | list | dict
  deriving DecidableEq

def kind : Decoded → Kind
  | .none => .none
  | .bool true => .true
  | .bool false => .false
  | .int _ => .number
  | .float _ => .number
  | .str _ => .str
  | .list _ => .list
  | .dict _ => .dict

/-- The kind of value that a character starts. -/
def leads (c : Char) : Option Kind :=
  if isFloatChar c then some .number
  else [('n', .none), ('t', .true), ('f', .false), ('"', .str), ('[', .list), ('{', .dict)].lookup c

theorem lead_chars {v : Decoded} (h : v.finite = true) :
    ∃ c cs, v.chars = c :: cs ∧ leads c = some v.kind := by
  cases v with
  | none => exact ⟨_, _, rfl, rfl⟩
  | bool b => cases b <;> exact ⟨_, _, rfl, rfl⟩
  | int n =>
    cases hText : (toString n).toList with
    | nil =>
      rw [toList_toString_int] at hText
      split_ifs at hText
      exact absurd hText (by simp [Nat.toDigits_ne_nil])
    | cons c cs =>
      have hChar := (isFloatChar_int (hText ▸ List.mem_cons_self : c ∈ (toString n).toList)).1
      exact ⟨c, cs, hText, if_pos hChar⟩
  | float x =>
    have hMark := PyFloat.isFloatText h
    rw [isFloatText, Bool.and_eq_true, List.any_eq_true] at hMark
    obtain ⟨-, d, hd, -⟩ := hMark
    cases hText : x.text.toList with
    | nil =>
      rw [hText] at hd
      cases hd
    | cons c cs =>
      have hChar := isFloatChar_float h (hText ▸ List.mem_cons_self : c ∈ x.text.toList)
      exact ⟨c, cs, hText, if_pos hChar⟩
  | str s => exact ⟨_, _, rfl, rfl⟩
  | list items => exact ⟨_, _, rfl, rfl⟩
  | dict items => exact ⟨_, _, rfl, rfl⟩

/-- Texts with one beginning are of values of one kind. -/
theorem kind_eq {v w : Decoded} {rest rest' : List Char} (hv : v.finite = true)
    (hw : w.finite = true) (h : v.chars ++ rest = w.chars ++ rest') : v.kind = w.kind := by
  obtain ⟨c, cs, hc, hKind⟩ := lead_chars hv
  obtain ⟨d, ds, hd, hKind'⟩ := lead_chars hw
  rw [hc, hd] at h
  obtain rfl := (List.cons.inj h).1
  rw [hKind] at hKind'
  exact Option.some.inj hKind'

/-- A value does not start with a closing bracket. -/
theorem chars_ne_closing {v : Decoded} {rest tail : List Char} {c : Char} (hv : v.finite = true)
    (hc : leads c = Option.none) : v.chars ++ rest ≠ c :: tail := by
  obtain ⟨d, ds, hd, hKind⟩ := lead_chars hv
  rw [hd]
  intro h
  obtain rfl := (List.cons.inj h).1
  rw [hc] at hKind
  cases hKind

theorem closed_later (items : List Decoded) {rest : List Char} (h : Closed rest) :
    Closed (laterItems items ++ rest) := by
  cases items with
  | nil => exact h
  | cons item items =>
    intro c hc
    obtain rfl := Option.some.inj hc
    decide

theorem closed_laterEntries (items : List (String × Decoded)) {rest : List Char} (h : Closed rest) :
    Closed (laterEntries items ++ rest) := by
  cases items with
  | nil => exact h
  | cons item items =>
    intro c hc
    obtain rfl := Option.some.inj hc
    decide

/-- The bracket that ends a list, or a dictionary. -/
theorem closed_bracket {c : Char} (hc : c = ']' ∨ c = '}') (rest : List Char) : Closed (c :: rest) := by
  intro d hd
  obtain rfl := Option.some.inj hd
  rcases hc with rfl | rfl <;> decide

mutual

/-- A text is of one value, and its end is told by it. -/
theorem chars_inj (v w : Decoded) {rest rest' : List Char} (hv : v.finite = true)
    (hw : w.finite = true) (hRest : Closed rest) (hRest' : Closed rest')
    (h : v.chars ++ rest = w.chars ++ rest') : v = w ∧ rest = rest' := by
  have hKind := kind_eq hv hw h
  cases v with
  | none =>
    cases w with
    | none => exact ⟨rfl, List.append_cancel_left h⟩
    | bool b => cases b <;> cases hKind
    | _ => cases hKind
  | bool a =>
    cases w with
    | bool b =>
      cases a with
      | false =>
        cases b with
        | false => exact ⟨rfl, List.append_cancel_left h⟩
        | true => cases hKind
      | true =>
        cases b with
        | false => cases hKind
        | true => exact ⟨rfl, List.append_cancel_left h⟩
    | _ => cases a <;> cases hKind
  | int m =>
    cases w with
    | int n =>
      obtain ⟨hText, hTail⟩ := token_inj (fun c hc => (isFloatChar_int hc).1)
        (fun c hc => (isFloatChar_int hc).1) hRest.isFloatChar hRest'.isFloatChar h
      exact ⟨congrArg _ (int_toString_injective hText), hTail⟩
    | float y =>
      obtain ⟨hText, -⟩ := token_inj (fun c hc => (isFloatChar_int hc).1)
        (fun c hc => isFloatChar_float hw hc) hRest.isFloatChar hRest'.isFloatChar h
      exact absurd hText (int_ne_float hw)
    | bool b => cases b <;> cases hKind
    | _ => cases hKind
  | float x =>
    cases w with
    | int n =>
      obtain ⟨hText, -⟩ := token_inj (fun c hc => isFloatChar_float hv hc)
        (fun c hc => (isFloatChar_int hc).1) hRest.isFloatChar hRest'.isFloatChar h
      exact absurd hText.symm (int_ne_float hv)
    | float y =>
      obtain ⟨hText, hTail⟩ := token_inj (fun c hc => isFloatChar_float hv hc)
        (fun c hc => isFloatChar_float hw hc) hRest.isFloatChar hRest'.isFloatChar h
      obtain ⟨s, hs⟩ := x
      obtain ⟨t, ht⟩ := y
      obtain rfl : s = t := String.toList_injective hText
      exact ⟨rfl, hTail⟩
    | bool b => cases b <;> cases hKind
    | _ => cases hKind
  | str s =>
    cases w with
    | str t =>
      obtain ⟨rfl, hTail⟩ := quoted_inj h
      exact ⟨rfl, hTail⟩
    | bool b => cases b <;> cases hKind
    | _ => cases hKind
  | list vs =>
    cases w with
    | list ws =>
      simp only [chars, List.cons_append, List.append_assoc, List.nil_append] at h
      obtain ⟨rfl, hTail⟩ := itemsChars_inj vs ws hv hw (List.cons.inj h).2
      exact ⟨rfl, hTail⟩
    | bool b => cases b <;> cases hKind
    | _ => cases hKind
  | dict vs =>
    cases w with
    | dict ws =>
      simp only [chars, List.cons_append, List.append_assoc, List.nil_append] at h
      obtain ⟨rfl, hTail⟩ := entriesChars_inj vs ws hv hw (List.cons.inj h).2
      exact ⟨rfl, hTail⟩
    | bool b => cases b <;> cases hKind
    | _ => cases hKind
termination_by structural v

theorem itemsChars_inj (vs ws : List Decoded) {rest rest' : List Char}
    (hv : finiteItems vs = true) (hw : finiteItems ws = true)
    (h : itemsChars vs ++ ']' :: rest = itemsChars ws ++ ']' :: rest') : vs = ws ∧ rest = rest' := by
  cases vs with
  | nil =>
    cases ws with
    | nil => exact ⟨rfl, (List.cons.inj h).2⟩
    | cons w ws =>
      obtain ⟨hFirst, -⟩ := Bool.and_eq_true_iff.mp hw
      rw [itemsChars, itemsChars, List.append_assoc] at h
      exact absurd h.symm (chars_ne_closing hFirst rfl)
  | cons v vs =>
    obtain ⟨hFirst, hLater⟩ := Bool.and_eq_true_iff.mp hv
    cases ws with
    | nil =>
      rw [itemsChars, itemsChars, List.append_assoc] at h
      exact absurd h (chars_ne_closing hFirst rfl)
    | cons w ws =>
      obtain ⟨hFirst', hLater'⟩ := Bool.and_eq_true_iff.mp hw
      rw [itemsChars, itemsChars, List.append_assoc, List.append_assoc] at h
      obtain ⟨rfl, hTail⟩ := chars_inj v w hFirst hFirst'
        (closed_later vs (closed_bracket (.inl rfl) rest))
        (closed_later ws (closed_bracket (.inl rfl) rest')) h
      obtain ⟨rfl, hEnd⟩ := laterItems_inj vs ws hLater hLater' hTail
      exact ⟨rfl, hEnd⟩
termination_by structural vs

theorem laterItems_inj (vs ws : List Decoded) {rest rest' : List Char}
    (hv : finiteItems vs = true) (hw : finiteItems ws = true)
    (h : laterItems vs ++ ']' :: rest = laterItems ws ++ ']' :: rest') : vs = ws ∧ rest = rest' := by
  cases vs with
  | nil =>
    cases ws with
    | nil => exact ⟨rfl, (List.cons.inj h).2⟩
    | cons w ws => exact absurd (List.cons.inj h).1 (by decide)
  | cons v vs =>
    cases ws with
    | nil => exact absurd (List.cons.inj h).1 (by decide)
    | cons w ws =>
      obtain ⟨hFirst, hLater⟩ := Bool.and_eq_true_iff.mp hv
      obtain ⟨hFirst', hLater'⟩ := Bool.and_eq_true_iff.mp hw
      rw [laterItems, laterItems, List.cons_append, List.cons_append, List.append_assoc,
        List.append_assoc] at h
      obtain ⟨rfl, hTail⟩ := chars_inj v w hFirst hFirst'
        (closed_later vs (closed_bracket (.inl rfl) rest))
        (closed_later ws (closed_bracket (.inl rfl) rest')) (List.cons.inj h).2
      obtain ⟨rfl, hEnd⟩ := laterItems_inj vs ws hLater hLater' hTail
      exact ⟨rfl, hEnd⟩
termination_by structural vs

theorem entriesChars_inj (vs ws : List (String × Decoded)) {rest rest' : List Char}
    (hv : finiteEntries vs = true) (hw : finiteEntries ws = true)
    (h : entriesChars vs ++ '}' :: rest = entriesChars ws ++ '}' :: rest') :
    vs = ws ∧ rest = rest' := by
  cases vs with
  | nil =>
    cases ws with
    | nil => exact ⟨rfl, (List.cons.inj h).2⟩
    | cons w ws => exact absurd (List.cons.inj h).1 (by decide)
  | cons v vs =>
    cases ws with
    | nil => exact absurd (List.cons.inj h).1 (by decide)
    | cons w ws =>
      obtain ⟨key, v⟩ := v
      obtain ⟨key', w⟩ := w
      obtain ⟨hFirst, hLater⟩ := Bool.and_eq_true_iff.mp hv
      obtain ⟨hFirst', hLater'⟩ := Bool.and_eq_true_iff.mp hw
      simp only [entriesChars, List.cons_append, List.append_assoc] at h
      obtain ⟨rfl, hValues⟩ := quoted_inj h
      obtain ⟨rfl, hTail⟩ := chars_inj v w hFirst hFirst'
        (closed_laterEntries vs (closed_bracket (.inr rfl) rest))
        (closed_laterEntries ws (closed_bracket (.inr rfl) rest')) (List.cons.inj hValues).2
      obtain ⟨rfl, hEnd⟩ := laterEntries_inj vs ws hLater hLater' hTail
      exact ⟨rfl, hEnd⟩
termination_by structural vs

theorem laterEntries_inj (vs ws : List (String × Decoded)) {rest rest' : List Char}
    (hv : finiteEntries vs = true) (hw : finiteEntries ws = true)
    (h : laterEntries vs ++ '}' :: rest = laterEntries ws ++ '}' :: rest') :
    vs = ws ∧ rest = rest' := by
  cases vs with
  | nil =>
    cases ws with
    | nil => exact ⟨rfl, (List.cons.inj h).2⟩
    | cons w ws => exact absurd (List.cons.inj h).1 (by decide)
  | cons v vs =>
    cases ws with
    | nil => exact absurd (List.cons.inj h).1 (by decide)
    | cons w ws =>
      obtain ⟨key, v⟩ := v
      obtain ⟨key', w⟩ := w
      obtain ⟨hFirst, hLater⟩ := Bool.and_eq_true_iff.mp hv
      obtain ⟨hFirst', hLater'⟩ := Bool.and_eq_true_iff.mp hw
      simp only [laterEntries, List.cons_append, List.append_assoc] at h
      obtain ⟨rfl, hValues⟩ := quoted_inj (List.cons.inj h).2
      obtain ⟨rfl, hTail⟩ := chars_inj v w hFirst hFirst'
        (closed_laterEntries vs (closed_bracket (.inr rfl) rest))
        (closed_laterEntries ws (closed_bracket (.inr rfl) rest')) (List.cons.inj hValues).2
      obtain ⟨rfl, hEnd⟩ := laterEntries_inj vs ws hLater hLater' hTail
      exact ⟨rfl, hEnd⟩
termination_by structural vs

end

/-- Values of one text are the same. -/
theorem dumps_injective {v w : Decoded} (hv : v.finite = true) (hw : w.finite = true)
    (h : v.dumps = w.dumps) : v = w := by
  have hChars : v.chars = w.chars := by
    have hLists := congrArg String.toList h
    rwa [dumps, dumps, String.toList_ofList, String.toList_ofList] at hLists
  have hEnd : Closed [] := by
    intro c hc
    cases hc
  exact (chars_inj v w hv hw hEnd hEnd (congrArg (· ++ []) hChars)).1

end Decoded

end Daybreak.Serial
