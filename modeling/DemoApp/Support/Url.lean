import Mathlib.Data.List.Basic
import Mathlib.Tactic.Common

/-!
# Support — Url

The query of an address, as the standard decoding reads it: what follows the first `?` is cut at
`#`, split at `&`, each piece at its first `=`; then `+` is a space, and the octets that are written
as escapes are decoded as UTF-8.  A key that is repeated has the array of its values.

* `decode_eq_self_iff`: decoding keeps exactly the texts without `+` and without an escape.
* `parameters_plain` and `plain_of_parameters`: when the first parameter is read as it was written.
-/

namespace Url

/-! ### Percent-decoding -/

/-- The value of a hexadecimal digit. -/
def hexDigit (c : Char) : Option Nat :=
  if '0' ≤ c ∧ c ≤ '9' then some (c.toNat - '0'.toNat)
  else if 'A' ≤ c ∧ c ≤ 'F' then some (c.toNat - 'A'.toNat + 10)
  else if 'a' ≤ c ∧ c ≤ 'f' then some (c.toNat - 'a'.toNat + 10)
  else none

/-- A character that stands for itself, or an octet that is written as an escape. -/
inductive Token where
  | char (c : Char)
  | octet (b : Nat)
  deriving DecidableEq

def tokens : List Char → List Token
  | '%' :: a :: b :: rest =>
      match hexDigit a, hexDigit b with
      | some h, some l => .octet (16 * h + l) :: tokens rest
      | _, _           => .char '%' :: tokens (a :: b :: rest)
  | c :: rest => .char c :: tokens rest
  | []        => []

/-- A decoder of UTF-8: so many octets of a character are missing, and the next one is at least
`lower` and at most `upper`. -/
structure Utf8 where
  needed : Nat := 0
  lower : Nat := 0x80
  upper : Nat := 0xBF
  code : Nat := 0

/-- What stands for octets that are no character. -/
def replacement : Char := '\uFFFD'

namespace Utf8

/-- The first octet of a character. -/
def first (b : Nat) : Utf8 × List Char :=
  if b ≤ 0x7F then ({}, [Char.ofNat b])
  else if 0xC2 ≤ b ∧ b ≤ 0xDF then ({ needed := 1, code := b - 0xC0 }, [])
  else if 0xE0 ≤ b ∧ b ≤ 0xEF then
    ({ needed := 2, code := b - 0xE0,
       lower := if b = 0xE0 then 0xA0 else 0x80, upper := if b = 0xED then 0x9F else 0xBF }, [])
  else if 0xF0 ≤ b ∧ b ≤ 0xF4 then
    ({ needed := 3, code := b - 0xF0,
       lower := if b = 0xF0 then 0x90 else 0x80, upper := if b = 0xF4 then 0x8F else 0xBF }, [])
  else ({}, [replacement])

/-- An octet that does not continue a character is read again as a first one. -/
def next (u : Utf8) (b : Nat) : Utf8 × List Char :=
  match u.needed with
  | 0     => first b
  | n + 1 =>
      if u.lower ≤ b ∧ b ≤ u.upper then
        let code := 64 * u.code + (b - 0x80)
        if n = 0 then ({}, [Char.ofNat code]) else ({ needed := n, code }, [])
      else
        ((first b).1, replacement :: (first b).2)

/-- What stands for a character that breaks off. -/
def rest (u : Utf8) : List Char := if u.needed = 0 then [] else [replacement]

def text : Utf8 → List Token → List Char
  | u, []             => u.rest
  | u, .char c :: ts  => u.rest ++ c :: text {} ts
  | u, .octet b :: ts => (u.next b).2 ++ text (u.next b).1 ts

end Utf8

/-- A piece of a query, decoded. -/
def decode (piece : List Char) : List Char :=
  Utf8.text {} (tokens (piece.map fun c => if c = '+' then ' ' else c))

-- U+00E9 takes two octets; `%E9` and `%C3` are none of their own.
example : decode "Ren%C3%A9+%e2%82%ac %zz%".toList = "René € %zz%".toList := by decide
example : decode "%E9a%C3".toList = [replacement, 'a', replacement] := by decide

/-! ### Queries -/

/-- The value of a key. -/
inductive Value where
  | text (s : String)
  | texts (values : List String)
  deriving DecidableEq

/-- The keys of a query with their values, in order. -/
abbrev Query := List (String × String)

/-- `query[key]`. -/
def Query.get (query : Query) (key : String) : Option Value :=
  match (query.filter fun x => x.1 = key).map Prod.snd with
  | []     => none
  | [s]    => some (.text s)
  | values => some (.texts values)

def parameter (piece : List Char) : String × String :=
  (String.ofList (decode (piece.takeWhile (· ≠ '='))),
    String.ofList (decode ((piece.dropWhile (· ≠ '=')).drop 1)))

/-- An empty piece is no parameter. -/
def parameters (query : List Char) : Query :=
  ((query.splitOn '&').filter (· ≠ [])).map parameter

/-- A client does not send the fragment. -/
def cut (text : List Char) : List Char := text.takeWhile (· ≠ '#')

/-- What `url.parse` finds in an address that a client connects to. -/
def parse (address : String) : Query :=
  parameters (((cut address.toList).dropWhile (· ≠ '?')).drop 1)

/-! ### What decoding keeps -/

/-- Some `%` is followed by two hexadecimal digits. -/
def escaped : List Char → Bool
  | '%' :: a :: b :: rest =>
      ((hexDigit a).isSome && (hexDigit b).isSome) || escaped (a :: b :: rest)
  | _ :: rest => escaped rest
  | []        => false

theorem tokens_of_not_escaped {v : List Char} (h : escaped v = false) :
    tokens v = v.map .char := by
  induction v using tokens.induct with
  | case1 a b rest x y hx hy ih => simp [escaped, hx, hy] at h
  | case2 a b rest hno ih =>
      rw [escaped, Bool.or_eq_false_iff] at h
      rw [tokens]
      split
      · next x y hx hy => exact absurd hy (hno x y hx)
      · rw [ih h.2]
        rfl
  | case3 c rest hc ih =>
      rw [tokens.eq_2 c rest hc, ih]
      · rfl
      · rwa [escaped.eq_2 c rest hc] at h
  | case4 => rfl

theorem length_tokens_le (v : List Char) : (tokens v).length ≤ v.length := by
  induction v using tokens.induct with
  | case1 a b rest x y hx hy ih =>
      rw [tokens]
      simp only [hx, hy, List.length_cons]
      omega
  | case2 a b rest hno ih =>
      rw [tokens]
      split
      · next x y hx hy => exact absurd hy (hno x y hx)
      · simpa using ih
  | case3 c rest hc ih =>
      rw [tokens.eq_2 c rest hc]
      simpa using ih
  | case4 => exact Nat.le_refl 0

/-- An escape is three characters of the text, and one octet. -/
theorem length_tokens_lt {v : List Char} (h : escaped v = true) :
    (tokens v).length < v.length := by
  induction v using tokens.induct with
  | case1 a b rest x y hx hy ih =>
      have hle := length_tokens_le rest
      rw [tokens]
      simp only [hx, hy, List.length_cons]
      omega
  | case2 a b rest hno ih =>
      have hrest : escaped (a :: b :: rest) = true := by
        rw [escaped, Bool.or_eq_true, Bool.and_eq_true, Option.isSome_iff_exists,
          Option.isSome_iff_exists] at h
        rcases h with ⟨⟨x, hx⟩, y, hy⟩ | h
        · exact absurd hy (hno x y hx)
        · exact h
      rw [tokens]
      split
      · next x y hx hy => exact absurd hy (hno x y hx)
      · simpa using ih hrest
  | case3 c rest hc ih =>
      rw [tokens.eq_2 c rest hc]
      rw [escaped.eq_2 c rest hc] at h
      simpa using ih h
  | case4 => cases h

namespace Utf8

/-- The characters that an octet gives, and the one it leaves open. -/
theorem length_next_le (u : Utf8) (b : Nat) :
    (u.next b).2.length + (u.next b).1.rest.length ≤ u.rest.length + 1 := by
  have hfirst : (first b).2.length + (first b).1.rest.length ≤ 1 := by
    rw [first]
    split_ifs <;> simp [rest]
  rw [next]
  split
  · omega
  · next n hn =>
      have hrest : u.rest.length = 1 := by simp [rest, hn]
      dsimp only
      split_ifs with hb hz
      · simp [rest]
      · simp [rest, hz]
      · simp only [List.length_cons]
        omega

/-- An octet is at most one character. -/
theorem length_text_le (ts : List Token) (u : Utf8) :
    (text u ts).length ≤ u.rest.length + ts.length := by
  induction ts generalizing u with
  | nil => simp [text]
  | cons t ts ih =>
      cases t with
      | char c =>
          have h := ih {}
          simp only [rest, if_pos, List.length_nil] at h
          simp only [text, List.length_append, List.length_cons]
          omega
      | octet b =>
          have h := ih (u.next b).1
          have hb := length_next_le u b
          simp only [text, List.length_append, List.length_cons]
          omega

theorem text_map_char (v : List Char) : text {} (v.map .char) = v := by
  induction v with
  | nil => rfl
  | cons c v ih => rw [List.map_cons, text, ih]; rfl

end Utf8

theorem length_decode_le (piece : List Char) : (decode piece).length ≤ piece.length := by
  have h := length_tokens_le (piece.map fun c => if c = '+' then ' ' else c)
  have ht := Utf8.length_text_le (tokens (piece.map fun c => if c = '+' then ' ' else c)) {}
  simp only [List.length_map, Utf8.rest, if_pos, List.length_nil] at h ht
  rw [decode]
  omega

/-- A text that decoding leaves as it is. -/
structure Literal (v : List Char) : Prop where
  plus : '+' ∉ v
  escape : escaped v = false

theorem map_plus_eq_self_iff {v : List Char} :
    (v.map fun c => if c = '+' then ' ' else c) = v ↔ '+' ∉ v := by
  induction v with
  | nil => simp
  | cons c v ih =>
      rw [List.map_cons, List.cons.injEq, ih, List.mem_cons, not_or]
      refine and_congr_left fun _ => ?_
      by_cases hc : c = '+'
      · subst hc
        decide
      · simp [hc, Ne.symm hc]

theorem decode_eq_self_iff {v : List Char} : decode v = v ↔ Literal v := by
  constructor
  · intro h
    -- an escape makes the text shorter, so there is none and only the `+` can change
    have hno : escaped (v.map fun c => if c = '+' then ' ' else c) = false := by
      by_contra hesc
      have hlt := length_tokens_lt ((Bool.not_eq_false _).mp hesc)
      have hle := Utf8.length_text_le (tokens (v.map fun c => if c = '+' then ' ' else c)) {}
      have hlen : (decode v).length = v.length := congrArg List.length h
      simp only [List.length_map, Utf8.rest, if_pos, List.length_nil] at hlt hle
      rw [decode] at hlen
      omega
    have hmap : (v.map fun c => if c = '+' then ' ' else c) = v := by
      rw [decode, tokens_of_not_escaped hno, Utf8.text_map_char] at h
      exact h
    rw [hmap] at hno
    exact ⟨map_plus_eq_self_iff.mp hmap, hno⟩
  · rintro ⟨hplus, hesc⟩
    rw [decode, map_plus_eq_self_iff.mpr hplus, tokens_of_not_escaped hesc, Utf8.text_map_char]

/-- Of a text whose beginning decodes to the whole, the beginning is the whole. -/
theorem eq_of_decode_start {v w : List Char} (hw : w <+: v) (h : decode w = v) : w = v := by
  have hlen := length_decode_le w
  rw [h] at hlen
  exact hw.eq_of_length_le hlen

/-! ### What splitting finds -/

/-- A query goes on with a separator, or it ends. -/
def Separated (text : List Char) : Prop := text = [] ∨ ∃ more, text = '&' :: more

theorem parameters_separator (text : List Char) : parameters ('&' :: text) = parameters text := by
  simp [parameters, List.splitOn_cons_eq_if_modifyHead]

theorem parameters_piece {piece text : List Char} (hne : piece ≠ []) (hsep : '&' ∉ piece)
    (ht : Separated text) :
    parameters (piece ++ text) = parameter piece :: parameters text := by
  rcases ht with rfl | ⟨more, rfl⟩
  · simp [parameters, List.splitOn_eq_singleton hsep, hne]
  · rw [parameters_separator]
    simp [parameters, List.splitOn_append_cons_self_of_not_mem hsep, hne]

section

variable {c : Char} {l : List Char}

theorem decide_ne_of_not_mem (h : c ∉ l) : ∀ x ∈ l, decide (x ≠ c) = true :=
  fun _ hx => decide_eq_true fun e => h (e ▸ hx)

/-- What stands before the first `c`. -/
theorem takeWhile_ne (h : c ∉ l) (r : List Char) : (l ++ c :: r).takeWhile (· ≠ c) = l := by
  rw [List.takeWhile_append_of_pos (decide_ne_of_not_mem h), List.takeWhile_cons_of_neg (by simp),
    List.append_nil]

/-- What stands after it. -/
theorem dropWhile_ne (h : c ∉ l) (r : List Char) :
    ((l ++ c :: r).dropWhile (· ≠ c)).drop 1 = r := by
  rw [List.dropWhile_append_of_pos (decide_ne_of_not_mem h), List.dropWhile_cons_of_neg (by simp)]
  rfl

end

theorem parameter_eq {key : List Char} (h : '=' ∉ key) (value : List Char) :
    parameter (key ++ '=' :: value) =
      (String.ofList (decode key), String.ofList (decode value)) := by
  rw [parameter, takeWhile_ne h, dropWhile_ne h]

theorem cut_append {text : List Char} (h : '#' ∉ text) (more : List Char) :
    cut (text ++ more) = text ++ cut more :=
  List.takeWhile_append_of_pos (decide_ne_of_not_mem h)

theorem Separated.cut {text : List Char} (h : Separated text) : Separated (cut text) := by
  rcases h with rfl | ⟨more, rfl⟩
  · exact .inl rfl
  · exact .inr ⟨Url.cut more, rfl⟩

theorem parse_append {address : List Char} (hq : '?' ∉ address) (hf : '#' ∉ address)
    (query : List Char) :
    parse (String.ofList (address ++ '?' :: query)) = parameters (cut query) := by
  have hcut : cut ('?' :: query) = '?' :: cut query := rfl
  rw [parse, String.toList_ofList, cut_append hf, hcut, dropWhile_ne hq]

/-- A key of a query that is written as it is. -/
structure PlainKey (key : List Char) : Prop extends Literal key where
  separator : '&' ∉ key
  fragment : '#' ∉ key
  equals : '=' ∉ key

/-- A value that is decoded as it was written. -/
structure Plain (v : List Char) : Prop extends Literal v where
  separator : '&' ∉ v
  fragment : '#' ∉ v

instance {key : List Char} : Decidable (PlainKey key) :=
  decidable_of_iff (('+' ∉ key ∧ escaped key = false) ∧ '&' ∉ key ∧ '#' ∉ key ∧ '=' ∉ key)
    ⟨fun ⟨⟨h₁, h₂⟩, h₃, h₄, h₅⟩ => ⟨⟨h₁, h₂⟩, h₃, h₄, h₅⟩,
      fun ⟨⟨h₁, h₂⟩, h₃, h₄, h₅⟩ => ⟨⟨h₁, h₂⟩, h₃, h₄, h₅⟩⟩

instance {v : List Char} : Decidable (Plain v) :=
  decidable_of_iff (('+' ∉ v ∧ escaped v = false) ∧ '&' ∉ v ∧ '#' ∉ v)
    ⟨fun ⟨⟨h₁, h₂⟩, h₃, h₄⟩ => ⟨⟨h₁, h₂⟩, h₃, h₄⟩, fun ⟨⟨h₁, h₂⟩, h₃, h₄⟩ => ⟨⟨h₁, h₂⟩, h₃, h₄⟩⟩

variable {key v text : List Char}

theorem parameters_value (hk : PlainKey key) (hsep : '&' ∉ v) (ht : Separated text) :
    parameters ('&' :: (key ++ '=' :: v ++ text)) =
      (String.ofList key, String.ofList (decode v)) :: parameters text := by
  have hpiece : '&' ∉ key ++ '=' :: v := by
    simp [hk.separator, hsep]
  rw [parameters_separator, parameters_piece (by simp) hpiece ht, parameter_eq hk.equals,
    decode_eq_self_iff.mpr hk.toLiteral]

/-- A plain value is read, and what follows it. -/
theorem parameters_plain (hk : PlainKey key) (hv : Plain v) (ht : Separated text) :
    parameters (cut ('&' :: (key ++ '=' :: v ++ text))) =
      (String.ofList key, String.ofList v) :: parameters (cut text) := by
  have hcut : cut ('&' :: (key ++ '=' :: v ++ text)) = '&' :: (key ++ '=' :: v ++ cut text) := by
    have h : '#' ∉ '&' :: (key ++ '=' :: v) := by
      simp [hk.fragment, hv.fragment]
    exact cut_append h text
  rw [hcut, parameters_value hk hv.separator ht.cut, decode_eq_self_iff.mpr hv.toLiteral]

/-- What is left of a value that a query goes on with: all of it, or what stands before its first
separator or fragment. -/
theorem cut_value (v : List Char) (ht : Separated text) :
    ∃ w rest, cut (v ++ text) = w ++ rest ∧ w <+: v ∧ '&' ∉ w ∧ Separated rest ∧
      (w = v → '&' ∉ v ∧ '#' ∉ v) := by
  induction v with
  | nil => exact ⟨[], cut text, rfl, List.nil_prefix, by simp, ht.cut, by simp⟩
  | cons c v ih =>
      by_cases hsep : c = '&'
      · subst hsep
        exact ⟨[], '&' :: cut (v ++ text), rfl, List.nil_prefix, by simp, .inr ⟨_, rfl⟩, by simp⟩
      · by_cases hfrag : c = '#'
        · subst hfrag
          exact ⟨[], [], rfl, List.nil_prefix, by simp, .inl rfl, by simp⟩
        · obtain ⟨w, rest, hcut, hw, hno, hrest, hall⟩ := ih
          refine ⟨c :: w, rest, ?_, ?_, ?_, hrest, ?_⟩
          · have hc : '#' ∉ [c] := by simp [Ne.symm hfrag]
            exact (cut_append hc _).trans (congrArg (c :: ·) hcut)
          · exact (List.prefix_cons_inj c).mpr hw
          · simp [hno, Ne.symm hsep]
          · intro e
            obtain ⟨ha, hf⟩ := hall (List.cons.inj e).2
            simp [ha, hf, Ne.symm hsep, Ne.symm hfrag]

/-- A value that is read as it was written is plain. -/
theorem plain_of_parameters (hk : PlainKey key) (ht : Separated text) :
    ∃ value more, parameters (cut ('&' :: (key ++ '=' :: v ++ text))) =
      (String.ofList key, value) :: more ∧ (value = String.ofList v → Plain v) := by
  obtain ⟨w, rest, hcut, hw, hno, hrest, hall⟩ := cut_value v ht
  have hcut' : cut ('&' :: (key ++ '=' :: v ++ text)) = '&' :: (key ++ '=' :: w ++ rest) := by
    have hkey : '#' ∉ '&' :: (key ++ ['=']) := by simp [hk.fragment]
    have h := cut_append hkey (v ++ text)
    rw [hcut] at h
    simpa using h
  refine ⟨String.ofList (decode w), parameters rest, ?_, fun hv => ?_⟩
  · rw [hcut', parameters_value hk hno hrest]
  · have hdec : decode w = v := String.ofList_injective hv
    obtain rfl : w = v := eq_of_decode_start hw hdec
    obtain ⟨hsep, hfrag⟩ := hall rfl
    exact { decode_eq_self_iff.mp hdec with separator := hsep, fragment := hfrag }

/-! ### What a key has -/

namespace Query

variable {query : Query} {k key : String} {value s : String}

theorem get_cons_of_ne (h : key ≠ k) : get ((k, value) :: query) key = query.get key := by
  simp [get, Ne.symm h]

theorem get_eq_none : query.get key = none ↔ (query.filter fun x => x.1 = key) = [] := by
  rw [get]
  generalize (query.filter fun x => x.1 = key) = l
  match l with
  | []          => simp
  | [x]         => simp
  | x :: y :: l => simp

/-- A key that stands first has that one value, if it stands nowhere else. -/
theorem get_cons_self :
    get ((k, value) :: query) k = some (.text s) ↔ value = s ∧ query.get k = none := by
  rw [get_eq_none, get, List.filter_cons_of_pos (by simp), List.map_cons]
  cases hf : (query.filter fun x => x.1 = k) with
  | nil => simp
  | cons x l => simp

/-- The query has the keys of a list, each with its value, and no other. -/
def Holds (query : Query) (entries : List (String × String)) : Prop :=
  ∀ key, query.get key = (entries.lookup key).map .text

theorem holds_nil : Holds [] [] := fun _ => rfl

theorem holds_cons {entries : List (String × String)} (hk : k ∉ entries.map Prod.fst) :
    Holds ((k, value) :: query) ((k, s) :: entries) ↔ value = s ∧ query.Holds entries := by
  have hnone : entries.lookup k = none := by
    rw [List.lookup_eq_none_iff]
    intro x hx
    exact bne_iff_ne.mpr fun e => hk (List.mem_map.mpr ⟨x, hx, e.symm⟩)
  constructor
  · intro h
    obtain ⟨hv, hno⟩ := get_cons_self.mp ((h k).trans (by rw [List.lookup_cons_self]; rfl))
    refine ⟨hv, fun key => ?_⟩
    by_cases e : key = k
    · subst e
      rw [hno, hnone]
      rfl
    · have hkey := h key
      rwa [get_cons_of_ne e, List.lookup_cons, beq_false_of_ne e] at hkey
  · rintro ⟨rfl, h⟩ key
    by_cases e : key = k
    · subst e
      rw [List.lookup_cons_self, Option.map_some, get_cons_self, h key, hnone]
      exact ⟨rfl, rfl⟩
    · rw [get_cons_of_ne e, List.lookup_cons, beq_false_of_ne e]
      exact h key

end Query

end Url
