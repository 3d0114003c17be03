import ImagePreload.Text.Json
import ImagePreload.Text.Ranges
import Mathlib.Data.Nat.Digits.Defs
import Mathlib.Tactic.IntervalCases

/-!
# What the text of a JSON document tells

A document without numbers can be read back from its text, if that is indented
(`Json.render_injective`). Numbers are left out because their written form may be any
text at all.

Nothing is parsed to see this. The written form of a character is such that two
characters with anything behind them give the same text only if they are the same and
so is what stands behind (`escapeChar_cancel`). Quoted texts inherit that from their
characters (`quote_cancel`), and arrays and objects from their parts, since a comma
stands in front of every further part and never where the last one ends
(`parts_cancel`).
-/

namespace ImagePreload

/-! ## Hexadecimal digits -/

namespace Text

theorem hexValue_append_digit (cs : List Char) {d : Nat} (hd : d < 16) :
    hexValue (cs ++ [d.digitChar]) = 16 * hexValue cs + d := by
  have hdigit : ∀ d < 16, ∀ n, (if d.digitChar.isDigit then 16 * n + (d.digitChar.toNat - 48)
      else 16 * n + (d.digitChar.toNat - 87)) = 16 * n + d := by
    intro d hd n
    interval_cases d <;> rfl
  rw [hexValue, List.foldl_append, List.foldl_cons, List.foldl_nil]
  exact hdigit d hd _

theorem hexValue_toDigits (n : Nat) : hexValue (Nat.toDigits 16 n) = n := by
  induction n using Nat.strong_induction_on with
  | _ n ih =>
      by_cases hn : n < 16
      · rw [Nat.toDigits_of_lt_base hn]
        simpa [hexValue] using hexValue_append_digit [] hn
      · rw [Nat.toDigits_of_base_le (by omega) (by omega),
          hexValue_append_digit _ (Nat.mod_lt n (by omega)), ih _ (by omega)]
        exact Nat.div_add_mod n 16

theorem hexValue_hexPadded (count n : Nat) : hexValue (hexPadded count n) = n := by
  have hzeros (k : Nat) (cs : List Char) :
      hexValue (List.replicate k '0' ++ cs) = hexValue cs := by
    induction k with
    | zero => rfl
    | succ k ih => exact ih
  rw [hexPadded, hzeros, hexValue_toDigits]

theorem hexPadded_length {count n : Nat} (hcount : 0 < count) (hn : n < 16 ^ count) :
    (hexPadded count n).length = count := by
  have hdigits := (Nat.length_toDigits_le_iff (by omega) hcount).2 hn
  rw [hexPadded, List.length_append, List.length_replicate]
  omega

theorem hexPadded_cancel {n n' : Nat} (hn : n ≤ 0xffff) (hn' : n' ≤ 0xffff) {x y : List Char}
    (h : hexPadded 4 n ++ x = hexPadded 4 n' ++ y) : n = n' ∧ x = y := by
  have hlength : (hexPadded 4 n).length = (hexPadded 4 n').length := by
    rw [hexPadded_length (by omega) (by omega), hexPadded_length (by omega) (by omega)]
  obtain ⟨hdigits, hrest⟩ := List.append_inj h hlength
  have hvalue := congrArg hexValue hdigits
  rw [hexValue_hexPadded, hexValue_hexPadded] at hvalue
  exact ⟨hvalue, hrest⟩

end Text

namespace Json

/-! ## Characters and texts -/

/-- The characters that are told by a letter behind a backslash, with that letter. -/
def letters : List (Char × Char) :=
  [('"', '"'), ('\\', '\\'), ('n', '\n'), ('r', '\r'), ('t', '\t'), ('b', '\x08'),
    ('f', '\x0c')]

theorem eq_of_mem_letters : ∀ p ∈ letters, p.1 ≠ 'u' ∧ ∀ q ∈ letters, p.1 = q.1 → p = q := by
  decide

/-- The two units of a character that has two. -/
def highUnit (n : Nat) : Nat := 0xd800 + (n - 0x10000) / 0x400

def lowUnit (n : Nat) : Nat := 0xdc00 + (n - 0x10000) % 0x400

theorem highUnit_le {n : Nat} (h : n < 0x110000) : highUnit n ≤ 0xdbff := by
  rw [highUnit]
  omega

theorem lowUnit_le (n : Nat) : lowUnit n ≤ 0xdfff := by
  rw [lowUnit]
  omega

theorem eq_of_units {n n' : Nat} (h : 0x10000 ≤ n) (h' : 0x10000 ≤ n')
    (hhigh : highUnit n = highUnit n') (hlow : lowUnit n = lowUnit n') : n = n' := by
  rw [highUnit, highUnit] at hhigh
  rw [lowUnit, lowUnit] at hlow
  omega

theorem toNat_lt (c : Char) : c.toNat < 0x110000 := by
  have hvalid : c.toNat < 0xd800 ∨ 0xdfff < c.toNat ∧ c.toNat < 0x110000 := c.valid
  omega

/-- The first unit of a pair is not the number of a character. -/
theorem toNat_ne_highUnit (c : Char) {n : Nat} (h : n < 0x110000) : c.toNat ≠ highUnit n := by
  have hvalid : c.toNat < 0xd800 ∨ 0xdfff < c.toNat ∧ c.toNat < 0x110000 := c.valid
  have hle := highUnit_le h
  have hge : 0xd800 ≤ highUnit n := Nat.le_add_right _ _
  omega

/-- The ways to write a character: as itself, by a letter, or by the numbers of its one or
two units. -/
inductive Written (c : Char) : List Char → Prop
  | itself (noMark : c ≠ '\\') (noQuote : c ≠ '"') : Written c [c]
  | letter {k : Char} (mem : (k, c) ∈ letters) : Written c ['\\', k]
  | unit {digits : List Char} (small : c.toNat ≤ 0xffff)
    (isNumber : Text.hexPadded 4 c.toNat = digits) : Written c ('\\' :: 'u' :: digits)
  | pair {high low : List Char} (large : 0x10000 ≤ c.toNat)
    (isHigh : Text.hexPadded 4 (highUnit c.toNat) = high)
    (isLow : Text.hexPadded 4 (lowUnit c.toNat) = low) :
    Written c ('\\' :: 'u' :: high ++ '\\' :: 'u' :: low)

theorem escapeChar_written (c : Char) : Written c (escapeChar c) := by
  have hletter {k c' : Char} (mem : (k, c') ∈ letters) (h : c = c') : Written c ['\\', k] :=
    .letter (h ▸ mem)
  simp only [escapeChar, beq_iff_eq]
  split
  · next h => exact hletter (by decide) h
  next hquote =>
  split
  · next h => exact hletter (by decide) h
  next hmark =>
  split
  · next h => exact hletter (by decide) h
  split
  · next h => exact hletter (by decide) h
  split
  · next h => exact hletter (by decide) h
  split
  · next h => exact hletter (by decide) h
  split
  · next h => exact hletter (by decide) h
  split
  · exact .itself hmark hquote
  split
  · next h => exact .unit h rfl
  · exact .pair (by omega) rfl rfl

theorem Written.cancel {c c' : Char} {cs cs' : List Char} (h : Written c cs)
    (h' : Written c' cs') {x y : List Char} (heq : cs ++ x = cs' ++ y) : c = c' ∧ x = y := by
  have hhigh (c : Char) : highUnit c.toNat ≤ 0xffff := (highUnit_le (toNat_lt c)).trans (by omega)
  have hlow (c : Char) : lowUnit c.toNat ≤ 0xffff := (lowUnit_le _).trans (by omega)
  cases h with
  | itself noMark noQuote =>
      cases h' <;> simp only [List.cons_append, List.nil_append, List.cons.injEq] at heq
      case itself => exact heq
      all_goals exact absurd heq.1 noMark
  | letter mem =>
      obtain ⟨hu, hunique⟩ := eq_of_mem_letters _ mem
      cases h' <;> simp only [List.cons_append, List.nil_append, List.cons.injEq, true_and] at heq
      case itself noMark _ => exact absurd heq.1.symm noMark
      case letter mem' => exact ⟨(Prod.mk.inj (hunique _ mem' heq.1)).2, heq.2⟩
      all_goals exact absurd heq.1 hu
  | unit small isNumber =>
      cases h' <;> simp only [List.cons_append, List.nil_append, List.append_assoc,
        List.cons.injEq, true_and] at heq
      case itself noMark _ => exact absurd heq.1.symm noMark
      case letter mem' => exact absurd heq.1.symm (eq_of_mem_letters _ mem').1
      case unit small' isNumber' =>
        rw [← isNumber, ← isNumber'] at heq
        obtain ⟨hn, hrest⟩ := Text.hexPadded_cancel small small' heq
        exact ⟨Char.toNat_inj.1 hn, hrest⟩
      case pair isHigh' _ =>
        -- a first unit is a surrogate, and no character has the number of one
        rw [← isNumber, ← isHigh'] at heq
        obtain ⟨hn, -⟩ := Text.hexPadded_cancel small (hhigh c') heq
        exact absurd hn (toNat_ne_highUnit c (toNat_lt c'))
  | pair large isHigh isLow =>
      cases h' <;> simp only [List.cons_append, List.nil_append, List.append_assoc,
        List.cons.injEq, true_and] at heq
      case itself noMark _ => exact absurd heq.1.symm noMark
      case letter mem' => exact absurd heq.1.symm (eq_of_mem_letters _ mem').1
      case unit small' isNumber' =>
        rw [← isHigh, ← isNumber'] at heq
        obtain ⟨hn, -⟩ := Text.hexPadded_cancel (hhigh c) small' heq
        exact absurd hn.symm (toNat_ne_highUnit c' (toNat_lt c))
      case pair large' isHigh' isLow' =>
        rw [← isHigh, ← isHigh'] at heq
        obtain ⟨hn, hbehind⟩ := Text.hexPadded_cancel (hhigh c) (hhigh c') heq
        simp only [List.cons.injEq, true_and] at hbehind
        rw [← isLow, ← isLow'] at hbehind
        obtain ⟨hn', hrest⟩ := Text.hexPadded_cancel (hlow c) (hlow c') hbehind
        exact ⟨Char.toNat_inj.1 (eq_of_units large large' hn hn'), hrest⟩

/-- Two characters that are written alike, with anything behind them, are the same. -/
theorem escapeChar_cancel {c c' : Char} {x y : List Char}
    (h : escapeChar c ++ x = escapeChar c' ++ y) : c = c' ∧ x = y :=
  (escapeChar_written c).cancel (escapeChar_written c') h

/-- No character is written with a quote in front, so a text ends where its quote stands. -/
theorem escapeChar_ne_quote (c : Char) (x y : List Char) : escapeChar c ++ x ≠ '"' :: y := by
  intro h
  have hwritten := escapeChar_written c
  generalize escapeChar c = cs at h hwritten
  cases hwritten with
  | itself noMark noQuote => exact noQuote (List.cons_eq_cons.1 h).1
  | letter | unit | pair => exact absurd (List.cons_eq_cons.1 h).1 (by decide)

theorem characters_cancel {cs cs' x y : List Char}
    (h : cs.flatMap escapeChar ++ '"' :: x = cs'.flatMap escapeChar ++ '"' :: y) :
    cs = cs' ∧ x = y := by
  induction cs generalizing cs' with
  | nil =>
      cases cs' with
      | nil => exact ⟨rfl, (List.cons_eq_cons.1 h).2⟩
      | cons c' cs' =>
          rw [List.flatMap_cons, List.append_assoc] at h
          exact absurd h.symm (escapeChar_ne_quote c' _ _)
  | cons c cs ih =>
      rw [List.flatMap_cons, List.append_assoc] at h
      cases cs' with
      | nil => exact absurd h (escapeChar_ne_quote c _ _)
      | cons c' cs' =>
          rw [List.flatMap_cons, List.append_assoc] at h
          obtain ⟨rfl, hbehind⟩ := escapeChar_cancel h
          obtain ⟨rfl, hrest⟩ := ih hbehind
          exact ⟨rfl, hrest⟩

theorem toList_quote (s : String) :
    (quote s).toList = '"' :: (s.toList.flatMap escapeChar ++ ['"']) := by
  simp [quote]

theorem quote_cancel {s s' : String} {x y : List Char}
    (h : (quote s).toList ++ x = (quote s').toList ++ y) : s = s' ∧ x = y := by
  simp only [toList_quote, List.cons_append, List.append_assoc] at h
  obtain ⟨hchars, hrest⟩ := characters_cancel (List.cons_eq_cons.1 h).2
  exact ⟨String.toList_inj.1 hchars, hrest⟩

/-! ## Arrays and objects -/

section

variable {α : Type}

theorem toList_lineStart (indent level : Nat) :
    (lineStart (some indent) level).toList = '\n' :: List.replicate (indent * level) ' ' := by
  simp [lineStart]

theorem toList_intercalate_cons (separator part : String) (parts : List String) :
    (separator.intercalate (part :: parts)).toList =
      part.toList ++ parts.flatMap fun p => separator.toList ++ p.toList := by
  induction parts generalizing part with
  | nil => simp
  | cons p parts ih => simp [String.intercalate_cons_cons, ih]

theorem toList_enclose_nil (indent : Option Nat) (level : Nat) (opening closing : String) :
    (enclose indent level opening closing []).toList = opening.toList ++ closing.toList := by
  rw [enclose, if_pos (by rfl), String.toList_append]

theorem toList_enclose_cons (indent level : Nat) (opening closing part : String)
    (parts : List String) :
    (enclose (some indent) level opening closing (part :: parts)).toList =
      opening.toList ++ '\n' :: (List.replicate (indent * (level + 1)) ' ' ++ (part.toList ++
        (parts.flatMap (fun p => ',' :: '\n' :: List.replicate (indent * (level + 1)) ' ' ++
          p.toList) ++
        '\n' :: (List.replicate (indent * level) ' ' ++ closing.toList)))) := by
  rw [enclose, if_neg (by simp)]
  simp only [String.toList_append, toList_intercalate_cons, toList_lineStart, Option.isNone_some,
    Bool.false_eq_true, if_false, List.append_assoc, List.cons_append]
  rfl

/-- Parts that can be told apart, each behind a comma, end where something other than a
comma stands. -/
theorem parts_cancel (write : α → List Char) (separator ending : List Char) {e : Char}
    (he : e ≠ ',') {parts parts' : List α}
    (cancel : ∀ a ∈ parts, ∀ b ∈ parts', ∀ x y, write a ++ x = write b ++ y → a = b ∧ x = y)
    {x y : List Char}
    (h : parts.flatMap (fun a => ',' :: separator ++ write a) ++ e :: ending ++ x =
      parts'.flatMap (fun a => ',' :: separator ++ write a) ++ e :: ending ++ y) :
    parts = parts' ∧ x = y := by
  induction parts generalizing parts' with
  | nil =>
      cases parts' with
      | nil => exact ⟨rfl, List.append_cancel_left h⟩
      | cons b parts' => exact absurd (List.cons_eq_cons.1 h).1 he
  | cons a parts ih =>
      cases parts' with
      | nil => exact absurd (List.cons_eq_cons.1 h).1.symm he
      | cons b parts' =>
          simp only [List.flatMap_cons, List.cons_append, List.append_assoc] at h
          have hwritten := List.append_cancel_left (List.cons_eq_cons.1 h).2
          obtain ⟨rfl, h⟩ := cancel a List.mem_cons_self b List.mem_cons_self _ _ hwritten
          obtain ⟨rfl, hrest⟩ := ih (fun a ha b hb => cancel a (List.mem_cons_of_mem _ ha) b
            (List.mem_cons_of_mem _ hb)) (by simpa using h)
          exact ⟨rfl, hrest⟩

/-- The brackets around parts tell where the last one ends. -/
theorem enclose_cancel {write : α → String} (indent level : Nat) (opening : String) (closing : Char)
    (hclosing : closing ≠ '\n') {parts parts' : List α}
    (cancel : ∀ a ∈ parts, ∀ b ∈ parts', ∀ x y,
      (write a).toList ++ x = (write b).toList ++ y → a = b ∧ x = y) {x y : List Char}
    (h : (enclose (some indent) level opening (.singleton closing) (parts.map write)).toList ++ x =
      (enclose (some indent) level opening (.singleton closing) (parts'.map write)).toList ++ y) :
    parts = parts' ∧ x = y := by
  have hclose : (String.singleton closing).toList = [closing] := String.toList_singleton closing
  cases parts with
  | nil =>
      cases parts' with
      | nil => exact ⟨rfl, List.append_cancel_left h⟩
      | cons b parts' =>
          rw [List.map_nil, List.map_cons, toList_enclose_nil, toList_enclose_cons, hclose,
            List.append_assoc, List.append_assoc] at h
          exact absurd (List.cons_eq_cons.1 (List.append_cancel_left h)).1 hclosing
  | cons a parts =>
      cases parts' with
      | nil =>
          rw [List.map_nil, List.map_cons, toList_enclose_nil, toList_enclose_cons, hclose,
            List.append_assoc, List.append_assoc] at h
          exact absurd (List.cons_eq_cons.1 (List.append_cancel_left h)).1.symm hclosing
      | cons b parts' =>
          rw [List.map_cons, List.map_cons, toList_enclose_cons, toList_enclose_cons] at h
          simp only [List.append_assoc, List.cons_append, List.append_cancel_left_eq,
            List.cons.injEq, true_and, List.flatMap_map] at h
          obtain ⟨rfl, hbehind⟩ := cancel a List.mem_cons_self b List.mem_cons_self _ _ h
          obtain ⟨rfl, hrest⟩ := parts_cancel (fun a => (write a).toList)
            ('\n' :: List.replicate (indent * (level + 1)) ' ')
            (List.replicate (indent * level) ' ' ++ (String.singleton closing).toList)
            (e := '\n') (by decide) (fun a ha b hb => cancel a (List.mem_cons_of_mem _ ha) b
              (List.mem_cons_of_mem _ hb)) (by simpa using hbehind)
          exact ⟨rfl, hrest⟩

end

/-! ## Documents -/

/-- No part of a document is a number. -/
inductive Numberless : Json → Prop
  | null : Numberless .null
  | bool (b : Bool) : Numberless (.bool b)
  | text (s : String) : Numberless (.text s)
  | array {items : List Json} (all : ∀ item ∈ items, Numberless item) : Numberless (.array items)
  | object {fields : List (String × Json)} (all : ∀ field ∈ fields, Numberless field.2) :
    Numberless (.object fields)

/-- A field of an object in its written form. -/
def renderField (indent : Option Nat) (level : Nat) (field : String × Json) : String :=
  quote field.1 ++ ": " ++ renderAt indent level field.2

theorem renderItems_eq_map (indent : Option Nat) (level : Nat) (items : List Json) :
    renderItems indent level items = items.map (renderAt indent level) := by
  induction items with
  | nil => rfl
  | cons item items ih => rw [renderItems, ih, List.map_cons]

theorem renderFields_eq_map (indent : Option Nat) (level : Nat) (fields : List (String × Json)) :
    renderFields indent level fields = fields.map (renderField indent level) := by
  induction fields with
  | nil => rfl
  | cons field fields ih => rw [renderFields, ih, List.map_cons, renderField]

/-- The character that a document without numbers begins with. -/
def firstChar : Json → Char
  | .null => 'n'
  | .bool b => if b then 't' else 'f'
  | .number _ => '0'
  | .text _ => '"'
  | .array _ => '['
  | .object _ => '\x7b'

theorem Numberless.toList_renderAt {j : Json} (h : Numberless j) (indent : Option Nat)
    (level : Nat) : ∃ rest, (renderAt indent level j).toList = j.firstChar :: rest := by
  have hbracket (opening : Char) (closing : String) (parts : List String) :
      ∃ rest,
        (enclose indent level (.singleton opening) closing parts).toList = opening :: rest := by
    unfold enclose
    split <;> simp [String.toList_append]
  cases h with
  | null => exact ⟨"ull".toList, by rw [renderAt]; rfl⟩
  | bool b =>
      cases b with
      | false => exact ⟨"alse".toList, by rw [renderAt]; rfl⟩
      | true => exact ⟨"rue".toList, by rw [renderAt]; rfl⟩
  | text s => exact ⟨_, toList_quote s⟩
  | array all => exact hbracket '[' _ _
  | object all => exact hbracket '\x7b' _ _

theorem firstChar_eq {j j' : Json} (h : Numberless j) (h' : Numberless j') {indent : Option Nat}
    {level : Nat} {x y : List Char}
    (heq : (renderAt indent level j).toList ++ x = (renderAt indent level j').toList ++ y) :
    j.firstChar = j'.firstChar := by
  obtain ⟨rest, hj⟩ := Numberless.toList_renderAt h indent level
  obtain ⟨rest', hj'⟩ := Numberless.toList_renderAt h' indent level
  rw [hj, hj'] at heq
  exact (List.cons_eq_cons.1 heq).1

theorem renderField_cancel {field field' : String × Json} {indent level : Nat}
    (cancel : ∀ x y, (renderAt (some indent) level field.2).toList ++ x =
      (renderAt (some indent) level field'.2).toList ++ y → field.2 = field'.2 ∧ x = y)
    {x y : List Char} (h : (renderField (some indent) level field).toList ++ x =
      (renderField (some indent) level field').toList ++ y) : field = field' ∧ x = y := by
  simp only [renderField, String.toList_append, List.append_assoc] at h
  obtain ⟨hkey, hbehind⟩ := quote_cancel h
  obtain ⟨hvalue, hrest⟩ := cancel _ _ (List.append_cancel_left hbehind)
  exact ⟨Prod.ext hkey hvalue, hrest⟩

/-- Two documents without numbers that are written alike, with anything behind them, are
the same. -/
theorem Numberless.cancel {j j' : Json} (h : Numberless j) (h' : Numberless j')
    {indent level : Nat} {x y : List Char} (heq : (renderAt (some indent) level j).toList ++ x =
      (renderAt (some indent) level j').toList ++ y) : j = j' ∧ x = y := by
  -- the first characters leave only one kind of document for the other one
  have hfirst := firstChar_eq h h' heq
  induction h generalizing j' level x y with
  | null =>
      cases h' <;> simp [firstChar] at hfirst
      case null => exact ⟨rfl, List.append_cancel_left heq⟩
      case bool b => cases b <;> simp at hfirst
  | bool b =>
      cases h' <;> cases b <;> simp [firstChar] at hfirst
      all_goals
        subst hfirst
        exact ⟨rfl, List.append_cancel_left heq⟩
  | text s =>
      cases h' <;> simp [firstChar] at hfirst
      case text s' =>
        obtain ⟨rfl, hrest⟩ := quote_cancel heq
        exact ⟨rfl, hrest⟩
      case bool b => cases b <;> simp at hfirst
  | @array items all ih =>
      cases h' <;> simp [firstChar] at hfirst
      case array items' all' =>
        rw [renderAt, renderAt, renderItems_eq_map, renderItems_eq_map] at heq
        obtain ⟨rfl, hrest⟩ := enclose_cancel indent level "[" ']' (by decide)
          (fun item mem item' mem' x y h => ih item mem (all' item' mem') h
            (firstChar_eq (all item mem) (all' item' mem') h)) heq
        exact ⟨rfl, hrest⟩
      case bool b => cases b <;> simp at hfirst
  | @object fields all ih =>
      cases h' <;> simp [firstChar] at hfirst
      case object fields' all' =>
        rw [renderAt, renderAt, renderFields_eq_map, renderFields_eq_map] at heq
        obtain ⟨rfl, hrest⟩ := enclose_cancel indent level "\x7b" '\x7d' (by decide)
          (fun field mem field' mem' x y h => renderField_cancel (fun x y h => ih field mem
            (all' field' mem') h (firstChar_eq (all field mem) (all' field' mem') h)) h) heq
        exact ⟨rfl, hrest⟩
      case bool b => cases b <;> simp at hfirst

end Json

end ImagePreload
