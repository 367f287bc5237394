import ServletFilters.Proofs.PatternForms
import ServletFilters.UrlPattern.Octets

/-!
The matcher on octets against the one on characters. In UTF-8 an octet below 0x80 is a character of
its own wherever it stands, so slashes, stars and periods are found at the same places in both, and
each access to an octet, each lowered length and each cut is within bounds.
-/

namespace ServletFilters

namespace Text

/-- A last occurrence divides a text in two. -/
theorem exists_last_of_mem {c : Char} {s : List Char} (h : c ∈ s) :
    ∃ front rest, s = front ++ c :: rest ∧ c ∉ rest := by
  obtain ⟨rest, hrest⟩ : ∃ rest, afterLast? c s = some rest := by
    simp [afterLast?, h]
  obtain ⟨hlast, front, hs⟩ := afterLast?_eq_some_iff.1 hrest
  exact ⟨front, rest, hs, hlast⟩

theorem afterLast?_eq_none {c : Char} {s : List Char} (h : c ∉ s) : afterLast? c s = none := by
  simp [afterLast?, h]

end Text

namespace UrlPattern.Octets
open Text

/-- The octets of UTF-8 text. -/
def encode (cs : List Char) : List UInt8 := cs.flatMap String.utf8EncodeChar

theorem ofString_eq_encode (s : String) : ofString s = encode s.toList := by
  rw [ofString, String.toUTF8_eq_toByteArray, ← String.utf8Encode_toList, List.utf8Encode,
    List.toList_data_toByteArray]
  rfl

theorem toByteArray_encode (cs : List Char) : (encode cs).toByteArray = cs.utf8Encode := rfl

@[simp]
theorem encode_nil : encode [] = [] := rfl

theorem encode_cons (c : Char) (cs : List Char) :
    encode (c :: cs) = String.utf8EncodeChar c ++ encode cs := List.flatMap_cons

@[simp]
theorem encode_append (cs ds : List Char) : encode (cs ++ ds) = encode cs ++ encode ds :=
  List.flatMap_append

theorem tail_octet_le (n : Nat) : 0x80 ≤ UInt8.ofNat (n % 64 + 128) := by
  rw [UInt8.le_iff_toNat_le, UInt8.toNat_ofNat']
  show 128 ≤ _
  omega

theorem lead_octet_le {n : Nat} (h : n < 64) : 0xC0 ≤ UInt8.ofNat (n + 192) := by
  rw [UInt8.le_iff_toNat_le, UInt8.toNat_ofNat']
  show 192 ≤ _
  omega

/-- A character is one octet below 0x80, or several octets none of which is. -/
theorem utf8EncodeChar_cases (c : Char) :
    (c.toNat < 0x80 ∧ String.utf8EncodeChar c = [UInt8.ofNat c.toNat]) ∨
      ∃ lead rest, String.utf8EncodeChar c = lead :: rest ∧ rest ≠ [] ∧ 0xC0 ≤ lead ∧
        ∀ b ∈ rest, 0x80 ≤ b := by
  have hc : c.val.toNat = c.toNat := rfl
  unfold String.utf8EncodeChar
  simp only [hc]
  split
  · left
    exact ⟨by omega, rfl⟩
  · right
    have htail : ∀ n, ∀ b ∈ [UInt8.ofNat (n % 64 + 128)], 0x80 ≤ b := fun n =>
      List.forall_mem_singleton.2 (tail_octet_le n)
    split
    · exact ⟨_, _, rfl, List.cons_ne_nil _ _, lead_octet_le (by omega), htail _⟩
    · split
      · refine ⟨_, _, rfl, List.cons_ne_nil _ _, ?_, List.forall_mem_cons.2 ⟨tail_octet_le _, htail _⟩⟩
        exact lead_octet_le (n := c.toNat / 4096 % 16 + 32) (by omega)
      · refine ⟨_, _, rfl, List.cons_ne_nil _ _, ?_, List.forall_mem_cons.2 ⟨tail_octet_le _,
          List.forall_mem_cons.2 ⟨tail_octet_le _, htail _⟩⟩⟩
        exact lead_octet_le (n := c.toNat / 262144 % 8 + 48) (by omega)

/-- What begins a character is no continuation. -/
theorem isContinuation_lead {c : Char} {b : UInt8} {rest : List UInt8}
    (h : String.utf8EncodeChar c = b :: rest) : isContinuation b = false := by
  rcases utf8EncodeChar_cases c with ⟨hc, henc⟩ | ⟨lead, _, henc, -, hlead, -⟩
  · rw [henc] at h
    obtain ⟨rfl, -⟩ := List.cons.inj h
    have hlt : ¬ (0x80 : UInt8) ≤ UInt8.ofNat c.toNat := by
      rw [UInt8.le_iff_toNat_le, UInt8.toNat_ofNat']
      show ¬ 128 ≤ _
      omega
    simp [isContinuation, hlt]
  · rw [henc] at h
    obtain ⟨rfl, -⟩ := List.cons.inj h
    have hge : ¬ lead < 0xC0 := UInt8.not_lt.2 hlead
    simp [isContinuation, hge]

theorem utf8EncodeChar_injective {c d : Char}
    (h : String.utf8EncodeChar c = String.utf8EncodeChar d) : c = d := by
  have hc := ByteArray.utf8DecodeChar?_utf8EncodeChar_append (b := ByteArray.empty) (c := c)
  rw [h, ByteArray.utf8DecodeChar?_utf8EncodeChar_append] at hc
  exact (Option.some.inj hc).symm

theorem encode_isPrefix_iff {cs ds : List Char} : encode cs <+: encode ds ↔ cs <+: ds := by
  constructor
  · rintro ⟨rest, hrest⟩
    apply List.isPrefix_of_utf8Encode_append_eq_utf8Encode rest.toByteArray
    rw [← toByteArray_encode, ← toByteArray_encode, ← List.toByteArray_append, hrest]
  · rintro ⟨rest, rfl⟩
    exact ⟨encode rest, (encode_append cs rest).symm⟩

theorem encode_injective {cs ds : List Char} (h : encode cs = encode ds) : cs = ds := by
  have hprefix : encode cs <+: encode ds := h ▸ List.prefix_refl _
  obtain ⟨rest, rfl⟩ := encode_isPrefix_iff.1 hprefix
  cases rest with
  | nil => exact (List.append_nil cs).symm
  | cons c rest =>
    obtain ⟨x, xs, hx⟩ := List.exists_cons_of_ne_nil (String.utf8EncodeChar_ne_nil (c := c))
    simp [encode_cons, hx] at h

theorem filter_zipIdx_eq_nil {b : UInt8} {s : List UInt8} (h : b ∉ s) (k : Nat) :
    ((s.zipIdx k).filter fun e => e.1 == b) = [] := by
  rw [List.filter_eq_nil_iff]
  intro e he heq
  have hmem := List.fst_mem_of_mem_zipIdx he
  rw [beq_iff_eq.1 heq] at hmem
  exact h hmem

theorem lastOffset?_eq_none {b : UInt8} {s : List UInt8} (h : b ∉ s) : lastOffset? b s = none := by
  rw [lastOffset?, filter_zipIdx_eq_nil h]
  rfl

theorem lastOffset?_append {b : UInt8} {front rest : List UInt8} (h : b ∉ rest) :
    lastOffset? b (front ++ b :: rest) = some front.length := by
  rw [lastOffset?, List.zipIdx_append, List.filter_append, List.zipIdx_cons, List.filter_cons,
    filter_zipIdx_eq_nil h]
  simp

/-! ### Octets that are characters of their own -/

section
variable {a : Char} {b : UInt8} (hab : String.utf8EncodeChar a = [b])
include hab

theorem mem_utf8EncodeChar_iff {c : Char} : b ∈ String.utf8EncodeChar c ↔ c = a := by
  have hb : b < 0x80 := by
    rcases utf8EncodeChar_cases a with ⟨ha, henc⟩ | ⟨lead, rest, henc, hne, -, -⟩
    · obtain rfl := List.singleton_inj.1 (hab.symm.trans henc)
      rw [UInt8.lt_iff_toNat_lt, UInt8.toNat_ofNat']
      show _ < 128
      omega
    · rw [hab] at henc
      exact absurd (List.cons.inj henc).2.symm hne
  constructor
  · intro h
    rcases utf8EncodeChar_cases c with ⟨-, henc⟩ | ⟨lead, rest, henc, -, hlead, hrest⟩
    · rw [henc, List.mem_singleton] at h
      exact utf8EncodeChar_injective (henc.trans (h ▸ hab.symm))
    · rw [henc, List.mem_cons] at h
      rcases h with rfl | h
      · exact absurd (UInt8.lt_of_lt_of_le hb (UInt8.le_trans (by decide) hlead))
          (UInt8.lt_irrefl b)
      · exact absurd (UInt8.lt_of_lt_of_le hb (hrest b h)) (UInt8.lt_irrefl b)
  · rintro rfl
    rw [hab]
    exact List.mem_singleton_self b

/-- It is the first octet of no other character. -/
theorem lead_eq_iff {c : Char} {lead : UInt8} {octets : List UInt8}
    (hc : String.utf8EncodeChar c = lead :: octets) : lead = b ↔ c = a := by
  constructor
  · rintro rfl
    exact (mem_utf8EncodeChar_iff hab).1 (hc ▸ List.mem_cons_self)
  · rintro rfl
    exact (List.cons.inj (hc.symm.trans hab)).1

theorem mem_encode_iff {cs : List Char} : b ∈ encode cs ↔ a ∈ cs := by
  simp [encode, List.mem_flatMap, mem_utf8EncodeChar_iff hab]

theorem encode_cons_eq (cs : List Char) : encode (a :: cs) = b :: encode cs := by
  rw [encode_cons, hab]
  rfl

/-- Text whose last octet is a character of its own ends with that character. -/
theorem encode_eq_concat_iff {cs : List Char} {front : List UInt8} :
    encode cs = front ++ [b] ↔ ∃ ds, cs = ds ++ [a] ∧ front = encode ds := by
  constructor
  · intro h
    rcases List.eq_nil_or_concat cs with rfl | ⟨ds, c, rfl⟩
    · simp at h
    · obtain ⟨octets, last, hoctets⟩ :=
        (List.eq_nil_or_concat (String.utf8EncodeChar c)).resolve_left String.utf8EncodeChar_ne_nil
      rw [List.concat_eq_append] at h hoctets
      rw [encode_append, encode_cons, encode_nil, List.append_nil, hoctets,
        ← List.append_assoc] at h
      obtain ⟨hfront, hlast⟩ := List.append_inj' h rfl
      obtain rfl := List.singleton_inj.1 hlast
      obtain rfl := (mem_utf8EncodeChar_iff hab).1 (hoctets ▸ List.mem_concat_self)
      rw [hab] at hoctets
      obtain rfl : octets = [] := by simpa using hoctets
      exact ⟨ds, List.concat_eq_append, by simpa using hfront.symm⟩
  · rintro ⟨ds, rfl, rfl⟩
    simp [encode_cons_eq hab]

/-- A character of its own is found where its octet is. -/
theorem lastOffset?_encode {front rest : List Char} (h : a ∉ rest) :
    lastOffset? b (encode (front ++ a :: rest)) = some (encode front).length := by
  rw [encode_append, encode_cons_eq hab]
  exact lastOffset?_append (mt (mem_encode_iff hab).1 h)

theorem lastOffset?_encode_of_not_mem {cs : List Char} (h : a ∉ cs) :
    lastOffset? b (encode cs) = none :=
  lastOffset?_eq_none (mt (mem_encode_iff hab).1 h)

theorem lastOffset?_encode_eq_some_iff {cs : List Char} {offset : Nat} :
    lastOffset? b (encode cs) = some offset ↔
      ∃ front rest, cs = front ++ a :: rest ∧ a ∉ rest ∧ offset = (encode front).length := by
  constructor
  · intro h
    by_cases hmem : a ∈ cs
    · obtain ⟨front, rest, rfl, hlast⟩ := exists_last_of_mem hmem
      rw [lastOffset?_encode hab hlast] at h
      exact ⟨front, rest, rfl, hlast, (Option.some.inj h).symm⟩
    · rw [lastOffset?_encode_of_not_mem hab hmem] at h
      cases h
  · rintro ⟨front, rest, rfl, hlast, rfl⟩
    exact lastOffset?_encode hab hlast

end

theorem utf8EncodeChar_slash : String.utf8EncodeChar '/' = [slash] := by decide

theorem utf8EncodeChar_star : String.utf8EncodeChar '*' = [star] := by decide

theorem utf8EncodeChar_period : String.utf8EncodeChar '.' = [period] := by decide

theorem encode_ends : encode ['/', '*'] = [slash, star] := by decide

theorem encode_starts : encode ['*', '.'] = [star, period] := by decide

theorem isSuffixOf_encode_iff {cs : List Char} :
    [slash, star].isSuffixOf (encode cs) = true ↔ ∃ base, cs = base ++ ['/', '*'] := by
  rw [List.isSuffixOf_iff_suffix]
  constructor
  · rintro ⟨front, hfront⟩
    have hstar : encode cs = (front ++ [slash]) ++ [star] := by simp [← hfront]
    obtain ⟨ds, rfl, hds⟩ := (encode_eq_concat_iff utf8EncodeChar_star).1 hstar
    obtain ⟨base, rfl, -⟩ := (encode_eq_concat_iff utf8EncodeChar_slash).1 hds.symm
    exact ⟨base, by simp⟩
  · rintro ⟨base, rfl⟩
    rw [encode_append, encode_ends]
    exact List.suffix_append _ _

/-! ### The matcher -/

theorem from?_append_encode (front : List UInt8) (cs : List Char) :
    from? (front ++ encode cs) front.length = some (encode cs) := by
  unfold from?
  cases cs with
  | nil => simp
  | cons c cs =>
    obtain ⟨b, octets, hc⟩ := List.exists_cons_of_ne_nil (String.utf8EncodeChar_ne_nil (c := c))
    rw [encode_cons, hc]
    simp [isContinuation_lead hc]

theorem isAtOrBelow?_encode (base path : List Char) :
    isAtOrBelow? (encode base) (encode path) = some (isAtOrBelow base path) := by
  unfold isAtOrBelow? isAtOrBelow
  by_cases hprefix : base <+: path
  · obtain ⟨rest, rfl⟩ := hprefix
    have hocts : (encode base).isPrefixOf (encode (base ++ rest)) = true :=
      List.isPrefixOf_iff_prefix.2 (encode_isPrefix_iff.2 (List.prefix_append base rest))
    rw [hocts, after?_eq_some_iff.2 rfl]
    cases rest with
    | nil => simp
    | cons c rest =>
      obtain ⟨b, octets, hc⟩ := List.exists_cons_of_ne_nil (String.utf8EncodeChar_ne_nil (c := c))
      have hlead : (b == slash) = (c == '/') := by
        rw [Bool.eq_iff_iff, beq_iff_eq, beq_iff_eq]
        exact lead_eq_iff utf8EncodeChar_slash hc
      simp [encode_cons, hc, hlead]
  · have hocts : (encode base).isPrefixOf (encode path) = false := by
      rw [Bool.eq_false_iff, ne_eq, List.isPrefixOf_iff_prefix, encode_isPrefix_iff]
      exact hprefix
    have hafter : after? base path = none := by
      rw [after?_eq_none_iff]
      rintro rest rfl
      exact hprefix (List.prefix_append base rest)
    rw [hocts, hafter]
    rfl

theorem lastIndex?_concat (front : List UInt8) (b : UInt8) :
    lastIndex? (front ++ [b]) = some front.length := by
  simp [lastIndex?]

/-- Behind the last slash the last period decides. -/
theorem hasExtension?_of_slash_before {extension front ending : List Char} {s : Nat}
    (hs : lastOffset? slash (encode (front ++ '.' :: ending)) = some s)
    (hbefore : s ≤ (encode front).length) (hending : '.' ∉ ending) :
    hasExtension? (encode extension) (encode (front ++ '.' :: ending)) =
      some (!ending.isEmpty && ending == extension) := by
  have hp : lastOffset? period (encode (front ++ '.' :: ending)) = some (encode front).length :=
    lastOffset?_encode utf8EncodeChar_period hending
  have hpath : encode (front ++ '.' :: ending) = (encode front ++ [period]) ++ encode ending := by
    simp [encode_cons_eq utf8EncodeChar_period]
  have hnot : ¬ (encode front).length < s := Nat.not_lt.2 hbefore
  simp only [hasExtension?, hs, hp, if_neg hnot]
  rw [hpath]
  cases ending with
  | nil => simp [lastIndex?_concat]
  | cons c rest =>
    have hcut := from?_append_encode (encode front ++ [period]) (c :: rest)
    rw [List.length_append, List.length_singleton] at hcut
    have hlast : lastIndex? (encode front ++ [period] ++ encode (c :: rest)) =
        some ((encode front).length + (encode (c :: rest)).length) := by
      simp [lastIndex?]
    have hne : (encode front).length ≠ (encode front).length + (encode (c :: rest)).length := by
      rw [encode_cons, List.length_append, String.length_utf8EncodeChar]
      have hpos := c.utf8Size_pos
      omega
    have hequal : (encode (c :: rest) == encode extension) = (c :: rest == extension) := by
      rw [Bool.eq_iff_iff, beq_iff_eq, beq_iff_eq]
      exact ⟨encode_injective, congrArg encode⟩
    rw [hlast, hcut]
    simp only [Option.bind_eq_bind, Option.bind_some, if_neg hne, hequal]
    rfl

theorem hasExtension?_encode (extension path : List Char) :
    hasExtension? (encode extension) (encode path) = some (hasExtension extension path) := by
  by_cases hslash : '/' ∈ path
  · obtain ⟨directory, segment, rfl, hsegment⟩ := exists_last_of_mem hslash
    have hs : lastOffset? slash (encode (directory ++ '/' :: segment)) =
        some (encode directory).length := lastOffset?_encode utf8EncodeChar_slash hsegment
    by_cases hperiod : '.' ∈ segment
    · obtain ⟨stem, ending, rfl, hending⟩ := exists_last_of_mem hperiod
      have hsplit : directory ++ '/' :: (stem ++ '.' :: ending) =
          (directory ++ '/' :: stem) ++ '.' :: ending := by simp
      rw [hasExtension, afterLast?_append hsegment]
      simp only [afterLast?_append hending]
      rw [hsplit] at hs ⊢
      exact hasExtension?_of_slash_before hs (by simp) hending
    · have hnone : hasExtension extension (directory ++ '/' :: segment) = false := by
        simp [hasExtension, afterLast?_append hsegment, afterLast?_eq_none hperiod]
      rw [hnone]
      by_cases hearlier : '.' ∈ directory
      · obtain ⟨front, rest, rfl, hrest⟩ := exists_last_of_mem hearlier
        have hlast : '.' ∉ rest ++ '/' :: segment := by simp [hrest, hperiod]
        have hp : lastOffset? period (encode (front ++ '.' :: (rest ++ '/' :: segment))) =
            some (encode front).length := lastOffset?_encode utf8EncodeChar_period hlast
        have hsplit : front ++ '.' :: rest ++ '/' :: segment =
            front ++ '.' :: (rest ++ '/' :: segment) := by simp
        rw [hsplit] at hs ⊢
        have hbefore : (encode front).length < (encode (front ++ '.' :: rest)).length := by
          simp [encode_cons_eq utf8EncodeChar_period]
        simp only [hasExtension?, hs, hp, if_pos hbefore]
      · have hnot : '.' ∉ directory ++ '/' :: segment := by simp [hearlier, hperiod]
        simp only [hasExtension?, hs, lastOffset?_encode_of_not_mem utf8EncodeChar_period hnot]
  · rw [hasExtension?, lastOffset?_encode_of_not_mem utf8EncodeChar_slash hslash, hasExtension,
      afterLast?_eq_none hslash]

theorem selects?_encode (pattern path : List Char) :
    selects? (encode pattern) (encode path) = some (selectsChars pattern path) := by
  have hself : (encode pattern == encode path) = (pattern == path) := by
    rw [Bool.eq_iff_iff, beq_iff_eq, beq_iff_eq]
    exact ⟨encode_injective, congrArg encode⟩
  have hall : (encode pattern == [slash, star]) = (pattern == ['/', '*']) := by
    rw [Bool.eq_iff_iff, beq_iff_eq, beq_iff_eq]
    exact ⟨fun h => encode_injective (h.trans encode_ends.symm), fun h => h ▸ encode_ends⟩
  rw [selects?, selectsChars, hself, hall]
  split
  · rfl
  split
  · rfl
  cases hbase : before? ['/', '*'] pattern with
  | some base =>
    obtain rfl := before?_eq_some_iff.1 hbase
    rw [if_pos (isSuffixOf_encode_iff.2 ⟨base, rfl⟩), ← isAtOrBelow?_encode]
    simp [encode_ends]
  | none =>
    have hends : ¬ [slash, star].isSuffixOf (encode pattern) = true := by
      rw [isSuffixOf_encode_iff, not_exists]
      exact before?_eq_none_iff.1 hbase
    rw [if_neg hends]
    cases hstart : after? ['*', '.'] pattern with
    | some extension =>
      obtain rfl := after?_eq_some_iff.1 hstart
      rw [encode_append, encode_starts, if_pos (by simp)]
      exact hasExtension?_encode extension path
    | none =>
      have hstarts : ¬ [star, period].isPrefixOf (encode pattern) = true := by
        rw [← encode_starts, List.isPrefixOf_iff_prefix, encode_isPrefix_iff]
        rintro ⟨rest, rfl⟩
        exact after?_eq_none_iff.1 hstart rest rfl
      rw [if_neg hstarts]

/-- The offset stands between two characters, or at an end. -/
def IsBoundary (s : String) (offset : Nat) : Prop :=
  ∃ front rest : String, s = front ++ rest ∧ offset = (ofString front).length

/-- Behind a period a character begins, or the text ends. -/
theorem isBoundary_of_lastOffset? {path : String} {p : Nat}
    (h : lastOffset? period (ofString path) = some p) :
    path ≠ "" ∧ p + 1 ≤ (ofString path).length ∧ IsBoundary path (p + 1) := by
  rw [ofString_eq_encode] at h
  obtain ⟨front, rest, hpath, -, rfl⟩ := (lastOffset?_encode_eq_some_iff utf8EncodeChar_period).1 h
  refine ⟨?_, ?_, String.ofList (front ++ ['.']), String.ofList rest, ?_, ?_⟩
  · rintro rfl
    simp at hpath
  · rw [ofString_eq_encode, hpath, encode_append, encode_cons_eq utf8EncodeChar_period,
      List.length_append, List.length_cons]
    omega
  · exact eq_append_of_toList (by simp [hpath])
  · simp [ofString_eq_encode, encode_cons_eq utf8EncodeChar_period]

/-- No access leads out of the path or into a character: not the octet read behind a base that the
path goes on from, not the length that is lowered, and not the cut behind a period. So the matcher on
octets always gives an answer, and it is that of the matcher on characters. -/
theorem selects?_within_bounds (pattern path : String) :
    (∀ base : String, pattern = base ++ "/*" → ofString base <+: ofString path →
      (ofString path).length ≠ (ofString base).length →
        (ofString base).length < (ofString path).length) ∧
    (∀ s p, lastOffset? slash (ofString path) = some s →
      lastOffset? period (ofString path) = some p →
        path ≠ "" ∧ p + 1 ≤ (ofString path).length ∧ IsBoundary path (p + 1)) ∧
    selects? (ofString pattern) (ofString path) = some (selects (some pattern) (some path)) := by
  refine ⟨?_, fun s p _ hp => isBoundary_of_lastOffset? hp, ?_⟩
  · intro base _ hprefix hlonger
    have hle := hprefix.length_le
    omega
  · rw [ofString_eq_encode, ofString_eq_encode]
    exact selects?_encode pattern.toList path.toList

theorem selects?_within_bounds_accented :
    ("/é/*" = "/é" ++ "/*" ∧ ofString "/é" <+: ofString "/é/日.x" ∧
      (ofString "/é").length < (ofString "/é/日.x").length) ∧
    (lastOffset? period (ofString "/é/日.x") = some 7 ∧ IsBoundary "/é/日.x" 8) ∧
    selects? (ofString "/é/*") (ofString "/é/日.x") = some true := by
  obtain ⟨hread, hcut, hselects⟩ := selects?_within_bounds "/é/*" "/é/日.x"
  have hprefix : ofString "/é" <+: ofString "/é/日.x" := by decide
  have hs : lastOffset? slash (ofString "/é/日.x") = some 3 := by decide
  have hp : lastOffset? period (ofString "/é/日.x") = some 7 := by decide
  exact ⟨⟨by decide, hprefix, hread "/é" (by decide) hprefix (by decide)⟩,
    ⟨hp, (hcut 3 7 hs hp).2.2⟩, hselects.trans (by decide)⟩

/-- The checks are not idle: octets that are no UTF-8 text can be cut inside a character. -/
example : selects? [star, period, 0x61] [slash, period, 0x80] = none := by decide

end UrlPattern.Octets

end ServletFilters
