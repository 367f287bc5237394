import Mathlib.Data.List.TakeDrop
import ServletFilters.Json.Text

/-!
JSON values of texts and flags are read back from the text that the writer makes of them.

Each reader is shown to read what the writer put before it and to leave the rest of the text as it
is. Blanks in front of a value are passed over, and so are the blanks behind it.
-/

namespace ServletFilters

namespace Reader

variable {α β : Type} {r : Reader α} {s later : List Char}

theorem bind_eq_some {f : α → Reader β} {a : α} (h : r s = some (a, later)) :
    (r >>= f) s = f a later := by
  show (r s).bind _ = _
  rw [h]
  rfl

theorem bind_eq_none {f : α → Reader β} (h : r s = none) : (r >>= f) s = none := by
  show (r s).bind _ = _
  rw [h]
  rfl

theorem char_cons (c : Char) (s : List Char) : char c (c :: s) = some ((), s) := by
  have hnext : satisfy (· == c) (c :: s) = some (c, s) := by simp [satisfy]
  rw [char, bind_eq_some hnext]
  rfl

theorem char_of_ne {c next : Char} (h : next ≠ c) (s : List Char) : char c (next :: s) = none := by
  rw [char, bind_eq_none]
  simp [satisfy, h]

theorem literal_append (text : String) (s : List Char) :
    literal text (text.toList ++ s) = some ((), s) := by
  have hdrop : (text.toList ++ s).drop text.length = s := by
    rw [← String.length_toList, List.drop_left]
  simp [literal, hdrop]

/-- There are no more items than characters. -/
theorem length_le_flatMap (separator : Char) (text : α → List Char) (as : List α) :
    as.length ≤ (as.flatMap fun a => separator :: text a).length := by
  induction as with
  | nil => exact Nat.zero_le _
  | cons a as ih =>
    simp only [List.flatMap_cons, List.length_cons, List.length_append]
    omega

section Separated

variable {text : α → List Char} {skip : List Char → List Char} {separator close : Char}
  {others : List α}
  (hseparator : ∀ s, skip (separator :: s) = separator :: s) (hclose : close ≠ separator)
  (hs : skip s = close :: later)

include hseparator hclose hs

theorem upTo_eq (hr : ∀ a ∈ others, ∀ s, r (text a ++ s) = some (a, skip s)) {n : Nat}
    (hn : others.length ≤ n) :
    upTo (char separator *> r) n (skip ((others.flatMap fun a => separator :: text a) ++ s)) =
      (others, close :: later) := by
  induction others generalizing n with
  | nil =>
    rw [List.flatMap_nil, List.nil_append, hs]
    cases n with
    | zero => rfl
    | succ n =>
      have hstop : (char separator *> r) (close :: later) = none :=
        bind_eq_none (char_of_ne hclose later)
      simp only [upTo, hstop]
  | cons a others ih =>
    obtain ⟨m, rfl⟩ := Nat.exists_eq_add_one_of_ne_zero (Nat.ne_zero_of_lt hn)
    rw [List.flatMap_cons, List.append_assoc, List.cons_append, hseparator]
    have hitem : (char separator *> r) (separator :: (text a
          ++ ((others.flatMap fun a => separator :: text a) ++ s))) =
        some (a, skip ((others.flatMap fun a => separator :: text a) ++ s)) :=
      (bind_eq_some (char_cons separator _)).trans (hr a List.mem_cons_self _)
    have hothers := ih (fun b hb => hr b (List.mem_cons_of_mem a hb)) (Nat.le_of_succ_le_succ hn)
    simp only [upTo, hitem, hothers]

theorem separated_eq {first : α}
    (hr : ∀ a ∈ first :: others, ∀ s, r (text a ++ s) = some (a, skip s)) :
    separated r (char separator)
        (text first ++ ((others.flatMap fun a => separator :: text a) ++ s)) =
      some (first :: others, close :: later) := by
  -- every further item takes at least its separator
  have hlength : others.length ≤
      (skip ((others.flatMap fun a => separator :: text a) ++ s)).length := by
    cases others with
    | nil => exact Nat.zero_le _
    | cons a others =>
      rw [List.flatMap_cons, List.cons_append, List.cons_append, hseparator]
      have hitems := length_le_flatMap separator text others
      simp only [List.length_cons, List.length_append]
      omega
  have hothers : many (char separator *> r)
      (skip ((others.flatMap fun a => separator :: text a) ++ s)) =
        some (others, close :: later) := by
    rw [many, upTo_eq hseparator hclose hs (fun a ha => hr a (List.mem_cons_of_mem _ ha)) hlength]
  have hmany : separated1 r (char separator)
      (text first ++ ((others.flatMap fun a => separator :: text a) ++ s)) =
        some (first :: others, close :: later) := by
    rw [separated1, bind_eq_some (hr first List.mem_cons_self _), bind_eq_some hothers]
    rfl
  show (separated1 r (char separator) _ <|> _) = _
  rw [hmany]
  rfl

end Separated

end Reader

namespace Json
open Reader Text

/-! ### Strings -/

/-- Behind four hexadecimal digits the reader looks for the other half of a pair. -/
def BeginsHex (s : List Char) : Prop :=
  ∃ a b c d later, s = '\\' :: 'u' :: a :: b :: c :: d :: later

theorem stringBody_of_bad_hex {a b c d : Char} (h : digitsNumber? 16 [a, b, c, d] = none)
    (s : List Char) : stringBody ('\\' :: 'u' :: a :: b :: c :: d :: s) = none := by
  by_cases hpair : BeginsHex s
  · obtain ⟨a, b, c, d, later, rfl⟩ := hpair
    rw [stringBody, h]
    rfl
  · rw [stringBody, h]
    · rfl
    · intro a b c d later hs
      exact hpair ⟨a, b, c, d, later, hs⟩

theorem stringBody_hex {a b c d : Char} {n : Nat} (hn : digitsNumber? 16 [a, b, c, d] = some n)
    (hlt : n < 0xD800) {s cs rest : List Char} (h : stringBody s = some (cs, rest)) :
    stringBody ('\\' :: 'u' :: a :: b :: c :: d :: s) = some (Char.ofNat n :: cs, rest) := by
  have hhigh : ¬ 0xD800 ≤ n := Nat.not_le.2 hlt
  have hlow : ¬ 0xDC00 ≤ n := by omega
  by_cases hpair : BeginsHex s
  · obtain ⟨e, f, g, k, later, rfl⟩ := hpair
    cases hm : digitsNumber? 16 [e, f, g, k] with
    | none =>
      rw [stringBody_of_bad_hex hm] at h
      cases h
    | some m =>
      rw [stringBody, hn, hm]
      simp [hhigh, hlow, h]
  · rw [stringBody, hn]
    · simp [hhigh, h]
    · intro e f g k later hs
      exact hpair ⟨e, f, g, k, later, hs⟩

theorem digitsNumber?_hexDigits :
    ∀ n < 0x20, digitsNumber? 16 ['0', '0', hexDigit (n / 16), hexDigit (n % 16)] = some n := by
  decide +kernel

theorem stringBody_simpleEscape {c e : Char} (h : simpleEscape? e = some c) (hu : e ≠ 'u')
    {s cs rest : List Char} (hs : stringBody s = some (cs, rest)) :
    stringBody ('\\' :: e :: s) = some (c :: cs, rest) := by
  rw [stringBody, h]
  · simp [hs]
  · rintro a b c d x y z w later rfl
    exact absurd rfl hu
  · simp [hu]

theorem stringBody_plain {c : Char} (hquote : c ≠ '"') (hback : c ≠ '\\') (hc : ¬ c.toNat < 0x20)
    {s cs rest : List Char} (h : stringBody s = some (cs, rest)) :
    stringBody (c :: s) = some (c :: cs, rest) := by
  rw [stringBody]
  · simp [hc, h]
  · exact hquote
  · exact fun _ _ _ _ _ _ _ _ _ heq => absurd heq hback
  · exact fun _ _ _ _ _ heq => absurd heq hback
  · exact fun _ _ heq => absurd heq hback

/-- A character is read back from what the writer puts in its place. -/
theorem stringBody_escapeChar (c : Char) {s cs rest : List Char}
    (h : stringBody s = some (cs, rest)) :
    stringBody (escapeChar c ++ s) = some (c :: cs, rest) := by
  unfold escapeChar
  split
  case h_8 hquote hback _ _ _ _ _ =>
    split
    case isTrue hcontrol =>
      have hread := stringBody_hex (digitsNumber?_hexDigits c.toNat hcontrol) (by omega) h
      rw [Char.ofNat_toNat] at hread
      exact hread
    case isFalse hplain => exact stringBody_plain hquote hback hplain h
  all_goals exact stringBody_simpleEscape rfl (by decide) h

theorem stringBody_quoted (cs rest : List Char) :
    stringBody (cs.flatMap escapeChar ++ '"' :: rest) = some (cs, rest) := by
  induction cs with
  | nil => rw [List.flatMap_nil, List.nil_append, stringBody]
  | cons c cs ih =>
    rw [List.flatMap_cons, List.append_assoc]
    exact stringBody_escapeChar c ih

/-- What the reader passes over between the parts of a value. -/
def isBlank (c : Char) : Bool := c == ' ' || c == '\t' || c == '\n' || c == '\r'

theorem skipBlanks_eq (s : List Char) : skipBlanks s = some ((), s.dropWhile isBlank) := by
  have hspan : (s.span isBlank).2 = s.dropWhile isBlank := by rw [List.span_eq_takeWhile_dropWhile]
  rw [← hspan]
  rfl

theorem dropWhile_isBlank {blanks later : List Char} {c : Char} (h : ∀ b ∈ blanks, isBlank b = true)
    (hc : isBlank c = false) : (blanks ++ c :: later).dropWhile isBlank = c :: later := by
  rw [List.dropWhile_append_of_pos h, List.dropWhile_cons_of_neg (by simp [hc])]

theorem toList_quote (t : String) (s : List Char) :
    (quote t).toList ++ s = '"' :: (t.toList.flatMap escapeChar ++ '"' :: s) := by
  simp [quote]

theorem quoted_eq (t : String) (s : List Char) :
    quoted ((quote t).toList ++ s) = some (t, s) := by
  rw [toList_quote, quoted, bind_eq_some (char_cons _ _), bind_eq_some (stringBody_quoted _ _),
    String.ofList_toList]
  rfl

/-! ### Values, by what they begin with -/

variable {n : Nat} {s later : List Char}

theorem map_eq_some {α β : Type} {r : Reader α} {a : α} (f : α → β) (h : r s = some (a, later)) :
    (f <$> r) s = some (f a, later) := by
  show (r s).bind _ = _
  rw [h]
  rfl

theorem value_succ (n : Nat) : value (n + 1) = (do
    skipBlanks
    let v ← valueBeginning (value n) (← peek?)
    skipBlanks
    pure v) := rfl

/-- Blanks before and behind a value belong to it. -/
theorem value_eq {c : Char} {rest : List Char} {v : Json} (hs : s.dropWhile isBlank = c :: rest)
    (hv : valueBeginning (value n) (some c) (c :: rest) = some (v, later)) :
    value (n + 1) s = some (v, later.dropWhile isBlank) := by
  have hpeek : peek? (c :: rest) = some (some c, c :: rest) := rfl
  rw [value_succ, bind_eq_some (skipBlanks_eq s), hs, bind_eq_some hpeek, bind_eq_some hv,
    bind_eq_some (skipBlanks_eq later)]
  rfl

theorem value_literal {word : String} {c : Char} {rest : List Char} {v : Json}
    (hs : s.dropWhile isBlank = word.toList ++ later) (hword : word.toList = c :: rest)
    (hv : valueBeginning (value n) (some c) = (fun _ => v) <$> literal word) :
    value (n + 1) s = some (v, later.dropWhile isBlank) := by
  have hread := map_eq_some (fun _ => v) (literal_append word later)
  rw [← hv] at hread
  rw [hword] at hs hread
  exact value_eq hs hread

theorem value_string {t : String} {rest : List Char} (hs : s.dropWhile isBlank = '"' :: rest)
    (hread : quoted ('"' :: rest) = some (t, later)) :
    value (n + 1) s = some (.string t, later.dropWhile isBlank) :=
  value_eq hs (map_eq_some _ hread)

theorem value_array {items : List Json} {rest behind : List Char}
    (hs : s.dropWhile isBlank = '[' :: rest)
    (hread : separated (value n) (char ',') rest = some (items, behind))
    (hclose : behind.dropWhile isBlank = ']' :: later) :
    value (n + 1) s = some (.array items, later.dropWhile isBlank) := by
  refine value_eq hs ((bind_eq_some (char_cons '[' rest)).trans ?_)
  rw [bind_eq_some hread, bind_eq_some (skipBlanks_eq _), hclose,
    bind_eq_some (char_cons ']' later)]
  rfl

theorem value_object {members : List (String × Json)} {rest behind : List Char}
    (hs : s.dropWhile isBlank = '\x7b' :: rest)
    (hread : separated (member (value n)) (char ',') rest = some (members, behind))
    (hclose : behind.dropWhile isBlank = '\x7d' :: later) :
    value (n + 1) s = some (ofMembers members, later.dropWhile isBlank) := by
  refine value_eq hs ((bind_eq_some (char_cons '\x7b' rest)).trans ?_)
  rw [bind_eq_some hread, bind_eq_some (skipBlanks_eq _), hclose,
    bind_eq_some (char_cons '\x7d' later)]
  rfl

theorem value_of_close (n : Nat) (later : List Char) : value n (']' :: later) = none := by
  cases n with
  | zero => rfl
  | succ n =>
    rw [value_succ, bind_eq_some (skipBlanks_eq _)]
    rfl

theorem member_of_close (inner : Reader Json) (later : List Char) :
    member inner ('\x7d' :: later) = none := by
  rw [member, bind_eq_some (skipBlanks_eq _)]
  rfl

/-- A value of texts and flags, nested at most so deep. There are no numerals in it, and the members
of an object are in ascending order. -/
inductive Textual : Nat → Json → Prop where
  | null (n : Nat) : Textual (n + 1) .null
  | boolean (n : Nat) (b : Bool) : Textual (n + 1) (.boolean b)
  | string (n : Nat) (t : String) : Textual (n + 1) (.string t)
  | array {n : Nat} {items : List Json} (h : ∀ i ∈ items, Textual n i) :
    Textual (n + 1) (.array items)
  | object {n : Nat} {members : List (String × Json)} (h : ∀ m ∈ members, Textual n m.2)
    (hascending : members.Pairwise fun a b => a.1 < b.1) : Textual (n + 1) (.object members)

/-! ### The text of arrays and objects -/

/-- An item on its own line. -/
def itemText (depth : Nat) (i : Json) : List Char :=
  '\n' :: (indent (depth + 1)).toList ++ (pretty (depth + 1) i).toList

def memberText (depth : Nat) (m : String × Json) : List Char :=
  '\n' :: (indent (depth + 1)).toList
    ++ ((quote m.1).toList ++ ':' :: ' ' :: (pretty (depth + 1) m.2).toList)

/-- The line that closes an array or an object. -/
def closing (depth : Nat) (close : Char) : List Char :=
  '\n' :: (indent depth).toList ++ [close]

theorem pretty_null (depth : Nat) : pretty depth .null = "null" := rfl

theorem pretty_true (depth : Nat) : pretty depth (.boolean true) = "true" := rfl

theorem pretty_false (depth : Nat) : pretty depth (.boolean false) = "false" := rfl

theorem pretty_string (depth : Nat) (t : String) : pretty depth (.string t) = quote t := rfl

theorem pretty_array_nil (depth : Nat) : pretty depth (.array []) = "[]" := rfl

theorem pretty_object_nil (depth : Nat) : pretty depth (.object []) = "\x7b\x7d" := rfl

theorem prettyItems_cons (depth : Nat) (i : Json) (items : List Json) :
    prettyItems depth (i :: items) =
      ",\n" ++ indent (depth + 1) ++ pretty (depth + 1) i ++ prettyItems depth items := rfl

theorem prettyMembers_cons (depth : Nat) (m : String × Json) (members : List (String × Json)) :
    prettyMembers depth (m :: members) = ",\n" ++ indent (depth + 1) ++ quote m.1 ++ ": "
      ++ pretty (depth + 1) m.2 ++ prettyMembers depth members := rfl

theorem pretty_array_cons (depth : Nat) (i : Json) (items : List Json) :
    pretty depth (.array (i :: items)) = "[\n" ++ indent (depth + 1) ++ pretty (depth + 1) i
      ++ prettyItems depth items ++ "\n" ++ indent depth ++ "]" := rfl

theorem pretty_object_cons (depth : Nat) (m : String × Json) (members : List (String × Json)) :
    pretty depth (.object (m :: members)) = "\x7b\n" ++ indent (depth + 1) ++ quote m.1 ++ ": "
      ++ pretty (depth + 1) m.2 ++ prettyMembers depth members ++ "\n" ++ indent depth
      ++ "\x7d" := rfl

theorem toList_prettyItems (depth : Nat) (items : List Json) :
    (prettyItems depth items).toList = items.flatMap fun i => ',' :: itemText depth i := by
  induction items with
  | nil => rfl
  | cons i items ih => simp [prettyItems_cons, itemText, ih]

theorem toList_prettyMembers (depth : Nat) (members : List (String × Json)) :
    (prettyMembers depth members).toList = members.flatMap fun m => ',' :: memberText depth m := by
  induction members with
  | nil => rfl
  | cons m members ih => simp [prettyMembers_cons, memberText, ih]

theorem toList_pretty_array (depth : Nat) (i : Json) (items : List Json) :
    (pretty depth (.array (i :: items))).toList = '[' :: (itemText depth i
      ++ ((items.flatMap fun i => ',' :: itemText depth i) ++ closing depth ']')) := by
  simp [pretty_array_cons, toList_prettyItems, itemText, closing]

theorem toList_pretty_object (depth : Nat) (m : String × Json) (members : List (String × Json)) :
    (pretty depth (.object (m :: members))).toList = '\x7b' :: (memberText depth m
      ++ ((members.flatMap fun m => ',' :: memberText depth m) ++ closing depth '\x7d')) := by
  simp [pretty_object_cons, toList_prettyMembers, memberText, closing]

theorem isBlank_of_mem_indent {depth : Nat} {c : Char} (h : c ∈ '\n' :: (indent depth).toList) :
    isBlank c = true := by
  rcases List.mem_cons.1 h with rfl | h
  · rfl
  · rw [indent, String.toList_ofList] at h
    rw [List.eq_of_mem_replicate h]
    rfl

/-- No blank stands before a value. -/
theorem exists_cons_pretty {j : Json} (h : Textual n j) (depth : Nat) :
    ∃ c rest, (pretty depth j).toList = c :: rest ∧ isBlank c = false := by
  cases h with
  | null => exact ⟨'n', ['u', 'l', 'l'], by simp [pretty_null], rfl⟩
  | boolean n b =>
    cases b with
    | true => exact ⟨'t', ['r', 'u', 'e'], by simp [pretty_true], rfl⟩
    | false => exact ⟨'f', ['a', 'l', 's', 'e'], by simp [pretty_false], rfl⟩
  | string n t =>
    exact ⟨'"', t.toList.flatMap escapeChar ++ ['"'], by simp [pretty_string, quote], rfl⟩
  | @array n items h =>
    cases items with
    | nil => exact ⟨'[', [']'], by simp [pretty_array_nil], rfl⟩
    | cons i items => exact ⟨'[', _, toList_pretty_array depth i items, rfl⟩
  | @object n members h _ =>
    cases members with
    | nil => exact ⟨'\x7b', ['\x7d'], by simp [pretty_object_nil], rfl⟩
    | cons m members => exact ⟨'\x7b', _, toList_pretty_object depth m members, rfl⟩

theorem dropWhile_closing (depth : Nat) {close : Char} (h : isBlank close = false)
    (later : List Char) : (closing depth close ++ later).dropWhile isBlank = close :: later := by
  rw [closing, List.append_assoc]
  exact dropWhile_isBlank (fun _ => isBlank_of_mem_indent) h

theorem member_memberText (depth : Nat) (m : String × Json)
    (h : value n (' ' :: ((pretty (depth + 1) m.2).toList ++ s)) = some (m.2, later)) :
    member (value n) (memberText depth m ++ s) = some (m, later) := by
  have hkey : (memberText depth m ++ s).dropWhile isBlank = (quote m.1).toList
      ++ ':' :: ' ' :: ((pretty (depth + 1) m.2).toList ++ s) := by
    have hbehind : (':' :: ' ' :: (pretty (depth + 1) m.2).toList) ++ s =
      ':' :: ' ' :: ((pretty (depth + 1) m.2).toList ++ s) := rfl
    rw [memberText, List.append_assoc, List.append_assoc, hbehind, toList_quote]
    exact dropWhile_isBlank (fun _ => isBlank_of_mem_indent) rfl
  rw [member, bind_eq_some (skipBlanks_eq _), hkey, bind_eq_some (quoted_eq m.1 _),
    bind_eq_some (skipBlanks_eq _), List.dropWhile_cons_of_neg (by decide),
    bind_eq_some (char_cons ':' _), bind_eq_some h]
  rfl

/-! ### Reading back -/

theorem separated_of_none {α : Type} {r : Reader α} (h : r s = none) :
    separated r (char ',') s = some ([], s) := by
  show (separated1 r (char ',') s <|> _) = _
  rw [separated1, bind_eq_none h]
  rfl

/-- What the writer makes of a value is read back, and what follows is left. -/
theorem value_pretty {j : Json} (h : Textual n j) (depth : Nat)
    (hs : s.dropWhile isBlank = (pretty depth j).toList ++ later) :
    value n s = some (j, later.dropWhile isBlank) := by
  induction h generalizing depth s later with
  | null =>
    rw [pretty_null] at hs
    exact value_literal hs rfl rfl
  | boolean n b =>
    cases b with
    | true =>
      rw [pretty_true] at hs
      exact value_literal hs rfl rfl
    | false =>
      rw [pretty_false] at hs
      exact value_literal hs rfl rfl
  | string n t =>
    rw [pretty_string] at hs
    have hquote := toList_quote t later
    exact value_string (hs.trans hquote) ((congrArg quoted hquote.symm).trans (quoted_eq t later))
  | @array n items h ih =>
    cases items with
    | nil =>
      rw [pretty_array_nil] at hs
      exact value_array hs (separated_of_none (value_of_close n later)) rfl
    | cons i items =>
      have hitem : ∀ a ∈ i :: items, ∀ s, value n (itemText depth a ++ s) =
          some (a, s.dropWhile isBlank) := by
        intro a ha s
        obtain ⟨c, rest, hc, hblank⟩ := exists_cons_pretty (h a ha) (depth + 1)
        refine ih a ha (depth + 1) ?_
        rw [itemText, List.append_assoc, hc]
        exact dropWhile_isBlank (fun _ => isBlank_of_mem_indent) hblank
      rw [toList_pretty_array, List.cons_append, List.append_assoc, List.append_assoc] at hs
      exact value_array hs (separated_eq (fun _ => rfl) (by decide)
        (dropWhile_closing depth rfl later) hitem) rfl
  | @object n members h hascending ih =>
    have hmembers : ofMembers members = .object members :=
      congrArg Json.object (Ascending.ofList_of_perm (.refl _) hascending)
    rw [← hmembers]
    cases members with
    | nil =>
      rw [pretty_object_nil] at hs
      exact value_object hs (separated_of_none (member_of_close _ later)) rfl
    | cons m members =>
      have hmember : ∀ a ∈ m :: members, ∀ s, member (value n) (memberText depth a ++ s) =
          some (a, s.dropWhile isBlank) := by
        intro a ha s
        obtain ⟨c, rest, hc, hblank⟩ := exists_cons_pretty (h a ha) (depth + 1)
        refine member_memberText depth a ?_
        refine ih a ha (depth + 1) ?_
        rw [hc, List.dropWhile_cons_of_pos rfl, List.cons_append,
          List.dropWhile_cons_of_neg (by simp [hblank])]
      rw [toList_pretty_object, List.cons_append, List.append_assoc, List.append_assoc] at hs
      exact value_object hs (separated_eq (fun _ => rfl) (by decide)
        (dropWhile_closing depth rfl later) hmember) rfl

/-- The text that the writer makes of a value holds that value. -/
theorem parse?_pretty {j : Json} (h : Textual 128 j) : parse? (j.pretty 0) = some j := by
  obtain ⟨c, rest, hc, hblank⟩ := exists_cons_pretty h 0
  have hskip : (j.pretty 0).toList.dropWhile isBlank = (j.pretty 0).toList ++ [] := by
    rw [List.append_nil, hc, List.dropWhile_cons_of_neg (by simp [hblank])]
  rw [parse?, run?, value_pretty h 0 hskip]
  rfl

end Json

end ServletFilters
