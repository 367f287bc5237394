import Mathlib.Data.List.Forall2
import ServletFilters.Json.Format
import ServletFilters.Proofs.OctetMatching
import ServletFilters.Toml.Format

/-!
The readers of dispatcher type names against each other. One takes a name in any mixture of ASCII
case, which comes to the same on characters and on octets; the reader of descriptors, in either
format, takes what that one does if it is in capitals already.
-/

namespace ServletFilters

namespace Text

theorem toNat_toUpper (c : Char) :
    c.toUpper.toNat = if 97 ≤ c.toNat ∧ c.toNat ≤ 122 then c.toNat - 32 else c.toNat := by
  have hsmall : 'a'.val ≤ c.val ∧ c.val ≤ 'z'.val ↔ 97 ≤ c.toNat ∧ c.toNat ≤ 122 := by
    rw [UInt32.le_iff_toNat_le, UInt32.le_iff_toNat_le]
    rfl
  have hshift : ('A'.val - 'a'.val).toNat = 2 ^ 32 - 32 := rfl
  unfold Char.toUpper
  split
  · have hc := hsmall.1 ‹_›
    rw [if_pos hc]
    show (c.val + ('A'.val - 'a'.val)).toNat = c.toNat - 32
    rw [UInt32.toNat_add, hshift, Char.toNat_val]
    omega
  · rw [if_neg (mt hsmall.2 ‹_›)]

def IsCapital (c : Char) : Prop := 65 ≤ c.toNat ∧ c.toNat ≤ 90

theorem IsCapital.toNat_lt {c : Char} (h : IsCapital c) : c.toNat < 0x80 :=
  Nat.lt_of_le_of_lt h.2 (by decide)

/-- The capital itself, or the small letter to it, thirty-two places further on. -/
def IsCaseOf (c capital : Char) : Prop := c = capital ∨ c.toNat = capital.toNat + 32

theorem toUpper_eq_iff {c capital : Char} (h : IsCapital capital) :
    c.toUpper = capital ↔ IsCaseOf c capital := by
  obtain ⟨hlow, hhigh⟩ := h
  rw [IsCaseOf, ← Char.toNat_inj, ← Char.toNat_inj, toNat_toUpper]
  split <;> omega

theorem map_toUpper_eq_iff {cs capitals : List Char} (h : ∀ c ∈ capitals, IsCapital c) :
    cs.map Char.toUpper = capitals ↔ List.Forall₂ IsCaseOf cs capitals := by
  induction capitals generalizing cs with
  | nil => simp
  | cons capital capitals ih =>
    obtain ⟨hcapital, hcapitals⟩ := List.forall_mem_cons.1 h
    cases cs with
    | nil => simp
    | cons c cs => simp [toUpper_eq_iff hcapital, ih hcapitals]

end Text

namespace UrlPattern.Octets
open Text

/-- The octet of a capital becomes that of the small letter. -/
def lowered (b : UInt8) : UInt8 := if 0x41 ≤ b ∧ b ≤ 0x5A then b + 0x20 else b

theorem toNat_lowered (b : UInt8) :
    (lowered b).toNat = if 65 ≤ b.toNat ∧ b.toNat ≤ 90 then b.toNat + 32 else b.toNat := by
  have hcapital : 0x41 ≤ b ∧ b ≤ 0x5A ↔ 65 ≤ b.toNat ∧ b.toNat ≤ 90 := by
    rw [UInt8.le_iff_toNat_le, UInt8.le_iff_toNat_le]
    rfl
  unfold lowered
  split
  · have hb := hcapital.1 ‹_›
    have htwenty : (0x20 : UInt8).toNat = 32 := rfl
    rw [if_pos hb, UInt8.toNat_add, htwenty]
    omega
  · rw [if_neg (mt hcapital.2 ‹_›)]

theorem utf8EncodeChar_of_lt {c : Char} (h : c.toNat < 0x80) :
    String.utf8EncodeChar c = [UInt8.ofNat c.toNat] := by
  have hc : c.val.toNat = c.toNat := rfl
  unfold String.utf8EncodeChar
  rw [hc, if_pos (by omega)]

theorem toNat_lowered_ofNat {n : Nat} (h : n < 0x80) :
    (lowered (UInt8.ofNat n)).toNat = if 65 ≤ n ∧ n ≤ 90 then n + 32 else n := by
  have hn : (UInt8.ofNat n).toNat = n := by
    rw [UInt8.toNat_ofNat']
    omega
  rw [toNat_lowered, hn]

theorem toNat_lowered_capital {c : Char} (h : IsCapital c) :
    (lowered (UInt8.ofNat c.toNat)).toNat = c.toNat + 32 :=
  (toNat_lowered_ofNat h.toNat_lt).trans (if_pos h)

theorem lowered_eq_iff {c capital : Char} (hc : c.toNat < 0x80) (h : IsCapital capital) :
    lowered (UInt8.ofNat c.toNat) = lowered (UInt8.ofNat capital.toNat) ↔ IsCaseOf c capital := by
  rw [IsCaseOf, ← Char.toNat_inj, ← UInt8.toNat_inj, toNat_lowered_ofNat hc,
    toNat_lowered_capital h]
  obtain ⟨hlow, hhigh⟩ := h
  split <;> omega

/-- A character of several octets is no letter, and its first octet is not taken for one. -/
theorem not_isCaseOf_of_lead {c capital : Char} (h : IsCapital capital) {lead : UInt8}
    {rest : List UInt8} (hc : String.utf8EncodeChar c = lead :: rest) (hlead : 0xC0 ≤ lead) :
    ¬ IsCaseOf c capital ∧ lowered lead ≠ lowered (UInt8.ofNat capital.toNat) := by
  have hge : 0xC0 ≤ lead.toNat := UInt8.le_iff_toNat_le.1 hlead
  constructor
  · intro hcase
    obtain ⟨hlow, hhigh⟩ := h
    have hlt : c.toNat < 0x80 := by
      rcases hcase with rfl | hcase <;> omega
    rw [utf8EncodeChar_of_lt hlt] at hc
    obtain ⟨rfl, -⟩ := List.cons.inj hc
    rw [UInt8.toNat_ofNat'] at hge
    omega
  · intro heq
    have hsame := congrArg UInt8.toNat heq
    rw [toNat_lowered, toNat_lowered_capital h] at hsame
    obtain ⟨hlow, hhigh⟩ := h
    split at hsame <;> omega

theorem map_lowered_encode_eq_iff {cs capitals : List Char} (h : ∀ c ∈ capitals, IsCapital c) :
    (encode cs).map lowered = (encode capitals).map lowered ↔
      List.Forall₂ IsCaseOf cs capitals := by
  induction capitals generalizing cs with
  | nil =>
    cases cs with
    | nil => simp
    | cons c cs => simp [encode_cons, String.utf8EncodeChar_ne_nil]
  | cons capital capitals ih =>
    obtain ⟨hcapital, hcapitals⟩ := List.forall_mem_cons.1 h
    rw [encode_cons_eq (utf8EncodeChar_of_lt hcapital.toNat_lt), List.map_cons]
    cases cs with
    | nil => simp
    | cons c cs =>
      -- the capital is one octet, so the first character of the text must be one as well
      rcases utf8EncodeChar_cases c with ⟨hc, henc⟩ | ⟨lead, rest, henc, -, hlead, -⟩
      · rw [encode_cons_eq henc, List.map_cons, List.cons.injEq, lowered_eq_iff hc hcapital,
          ih hcapitals, List.forall₂_cons]
      · obtain ⟨hcase, hfirst⟩ := not_isCaseOf_of_lead hcapital henc hlead
        rw [encode_cons, henc, List.forall₂_cons]
        simp [hcase, hfirst]

end UrlPattern.Octets

namespace Dispatcher
open Text UrlPattern.Octets

theorem isCapital_of_mem_name {t : Dispatcher} : ∀ c ∈ t.name.toList, IsCapital c := by
  unfold IsCapital
  cases t <;> simp [name]

theorem map_toUpper_name (t : Dispatcher) : t.name.toList.map Char.toUpper = t.name.toList :=
  (map_toUpper_eq_iff isCapital_of_mem_name).2 (List.forall₂_same.2 fun _ _ => .inl rfl)

theorem toUpper_name (t : Dispatcher) : t.name.toUpper = t.name := by
  rw [← String.toList_inj, String.toUpper, String.toList_map, map_toUpper_name]

theorem toUpper_eq_name_iff {s : String} {t : Dispatcher} :
    s.toUpper = t.name ↔ List.Forall₂ IsCaseOf s.toList t.name.toList := by
  rw [← String.toList_inj, String.toUpper, String.toList_map,
    map_toUpper_eq_iff isCapital_of_mem_name]

theorem sameLetters_name_iff {s : String} {t : Dispatcher} :
    sameLetters t.name s = true ↔ s.toUpper = t.name := by
  rw [sameLetters, beq_iff_eq, map_toUpper_name, ← String.toList_inj, String.toUpper,
    String.toList_map, eq_comm]

theorem octets_eq_name_iff {s : String} {t : Dispatcher} :
    (ofString s).map lowered = (ofString t.name).map lowered ↔ s.toUpper = t.name := by
  rw [ofString_eq_encode, ofString_eq_encode, map_lowered_encode_eq_iff isCapital_of_mem_name,
    toUpper_eq_name_iff]

/-- A look-up among all types finds the one type that is looked for. -/
theorem find?_all_eq_some_iff {p : Dispatcher → Bool}
    (hunique : ∀ t u, p t = true → p u = true → t = u) {t : Dispatcher} :
    all.find? p = some t ↔ p t = true := by
  constructor
  · exact List.find?_some
  · intro ht
    obtain ⟨u, hu⟩ := Option.isSome_iff_exists.1 (List.find?_isSome.2 ⟨t, mem_all t, ht⟩)
    rw [hu, hunique u t (List.find?_some hu) ht]

theorem parse_eq_ok_iff {s : String} {t : Dispatcher} : parse s = .ok t ↔ s.toUpper = t.name := by
  have hfind : all.find? (fun t => sameLetters t.name s) = some t ↔ s.toUpper = t.name := by
    rw [find?_all_eq_some_iff, sameLetters_name_iff]
    intro t u ht hu
    exact name_injective ((sameLetters_name_iff.1 ht).symm.trans (sameLetters_name_iff.1 hu))
  rw [parse, ← hfind]
  split <;> simp [*]

theorem parse_eq_error {s : String} (h : ∀ t, parse s ≠ .ok t) : parse s = .error ⟨s⟩ := by
  unfold parse at h ⊢
  split
  · rename_i t ht
    simp [ht] at h
  · rfl

theorem variant_eq_ok_iff {s : String} {t : Dispatcher} : Schema.variant s = .ok t ↔ s = t.name := by
  have hfind : ofName? s = some t ↔ s = t.name := by
    rw [ofName?, find?_all_eq_some_iff, beq_iff_eq, schemaName_eq_name, eq_comm]
    intro t u ht hu
    rw [beq_iff_eq, schemaName_eq_name] at ht hu
    exact name_injective (ht.trans hu.symm)
  rw [Schema.variant, ← hfind]
  split <;> simp [*]

theorem variant_eq_ok_iff_parse {s : String} {t : Dispatcher} :
    Schema.variant s = .ok t ↔ parse s = .ok t ∧ s.toUpper = s := by
  rw [variant_eq_ok_iff, parse_eq_ok_iff]
  constructor
  · rintro rfl
    exact ⟨t.toUpper_name, t.toUpper_name⟩
  · rintro ⟨hname, hupper⟩
    exact hupper.symm.trans hname

/-- What a text is to the readers of names. The one that takes any mixture of case reads it as a type
if and only if it is the name of the type in capitals, which can be asked of its letters, of its
characters or of its octets; it is so for one type at most. Descriptors take the capitals alone. -/
structure ReadAlike (s : String) : Prop where
  parsed : ∀ t, parse s = .ok t ↔ s.length = t.name.length ∧ s.toUpper = t.name.toUpper
  letters : ∀ t, parse s = .ok t ↔ List.Forall₂ IsCaseOf s.toList t.name.toList
  octets : ∀ t, parse s = .ok t ↔ (ofString s).length = (ofString t.name).length ∧
    (ofString s).map lowered = (ofString t.name).map lowered
  decided : (∃ t, parse s = .ok t ∧ ∀ u : Dispatcher, s.toUpper = u.name.toUpper ↔ u = t) ∨
    parse s = .error ⟨s⟩ ∧ ∀ u : Dispatcher, s.toUpper ≠ u.name.toUpper
  json : ∀ t, Json.format.dispatcher (.string s) = .ok t ↔ parse s = .ok t ∧ s.toUpper = s
  toml : ∀ t, Toml.format.dispatcher (.string s) = .ok t ↔ parse s = .ok t ∧ s.toUpper = s

structure ReadAs (s : String) (t : Dispatcher) : Prop where
  parsed : parse s = .ok t
  json : Json.format.dispatcher (.string s) = .ok t
  toml : Toml.format.dispatcher (.string s) = .ok t

theorem readAlike (s : String) : ReadAlike s where
  parsed t := by
    rw [parse_eq_ok_iff, toUpper_name]
    constructor
    · intro h
      have hlength : s.toUpper.length = s.length := String.length_map
      exact ⟨by rw [← hlength, h], h⟩
    · exact And.right
  letters t := parse_eq_ok_iff.trans toUpper_eq_name_iff
  octets t := by
    rw [octets_eq_name_iff, parse_eq_ok_iff]
    constructor
    · intro h
      have hlength := congrArg List.length (octets_eq_name_iff.2 h)
      exact ⟨by simpa using hlength, h⟩
    · exact And.right
  decided := by
    by_cases h : ∃ t, parse s = .ok t
    · obtain ⟨t, ht⟩ := h
      refine .inl ⟨t, ht, fun u => ?_⟩
      rw [toUpper_name, parse_eq_ok_iff.1 ht]
      exact ⟨fun hname => name_injective hname.symm, fun hu => by rw [hu]⟩
    · rw [not_exists] at h
      refine .inr ⟨parse_eq_error h, fun u hu => ?_⟩
      exact h u (parse_eq_ok_iff.2 (hu.trans u.toUpper_name))
  json _ := variant_eq_ok_iff_parse
  toml _ := variant_eq_ok_iff_parse

theorem readAs_name (t : Dispatcher) : ReadAs t.name t where
  parsed := parse_eq_ok_iff.2 t.toUpper_name
  json := variant_eq_ok_iff.2 rfl
  toml := variant_eq_ok_iff.2 rfl

/-- The readers of names agree on every text, and read the shown and the written name of a type as
that type. -/
theorem readers_agree :
    (∀ s, ReadAlike s) ∧ ∀ t : Dispatcher, ReadAs t.name t ∧ ReadAs t.schemaName t := by
  refine ⟨readAlike, fun t => ⟨t.readAs_name, ?_⟩⟩
  rw [t.schemaName_eq_name]
  exact t.readAs_name

/-- The long s and the dotless i have the capitals S and I, but not in ASCII. -/
example : parse "aSyNc" = .ok .async ∧ parse "aſync" = .error ⟨"aſync"⟩ ∧
    parse "ıNCLUDE" = .error ⟨"ıNCLUDE"⟩ := by decide

end Dispatcher

end ServletFilters
