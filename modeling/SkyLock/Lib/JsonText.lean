import Mathlib.Data.String.Basic
import SkyLock.Lib.Json

/-!
# What a canonical JSON text says

The text `json.dumps` gives a value is unambiguous: each literal, array and object can be
told from what follows it, so the text determines the value.  With `sort_keys=True` the
text determines a value whose objects repeat no key up to the order of their fields, at
every depth, and nothing else of it is lost.

## Main definitions

* `readChar` — the first character of the rest of a string literal.
* `JsonValue.Keyed` — no object repeats a key.
* `JsonValue.Reordered` — the same up to the order of fields, at every depth.
* `JsonValue.mapStrings` — another text for each string value.

## Main results

* `readChar_escapeChar` — reading a character back.
* `render_injective` — the text determines the value.
* `dumps_eq_iff` — **canonical texts are equal exactly for values that are the same up to
  the order of fields**.
* `field_sortKeys` — a field of the value with its keys in order.
-/

namespace JsonValue

/-! ### Reading characters back -/

/-- The value of a lower-case hexadecimal digit. -/
def hexValue (c : Char) : ℕ := if c.toNat < 58 then c.toNat - 48 else c.toNat - 87

/-- The value of four hexadecimal digits. -/
def hexValue4 (a b c d : Char) : ℕ :=
  hexValue a * 4096 + hexValue b * 256 + hexValue c * 16 + hexValue d

/-- The character of a two-character escape. -/
def shortUnescape (l : Char) : Option Char :=
  if l = backslash then some backslash
  else if l = quoteMark then some quoteMark
  else if l = 'b' then some (Char.ofNat 8)
  else if l = 'f' then some (Char.ofNat 12)
  else if l = 'n' then some (Char.ofNat 10)
  else if l = 'r' then some (Char.ofNat 13)
  else if l = 't' then some (Char.ofNat 9)
  else none

/-- The character of the surrogate pair whose second escape comes next. -/
def readSurrogate (high : ℕ) : List Char → Option (Char × List Char)
  | _ :: _ :: a :: b :: c :: d :: rest =>
    some (Char.ofNat (65536 + ((high - 55296) * 1024 + (hexValue4 a b c d - 56320))), rest)
  | _ => none

/-- The character of a `\u` escape whose digits come next. -/
def readUnicode : List Char → Option (Char × List Char)
  | a :: b :: c :: d :: rest =>
    if 55296 ≤ hexValue4 a b c d ∧ hexValue4 a b c d < 56320 then
      readSurrogate (hexValue4 a b c d) rest
    else some (Char.ofNat (hexValue4 a b c d), rest)
  | _ => none

/-- The character of the escape that the backslash before it starts. -/
def readEscape : List Char → Option (Char × List Char)
  | [] => none
  | l :: rest =>
    if l = 'u' then readUnicode rest else (shortUnescape l).map fun c => (c, rest)

/-- The first character of the rest of a string literal, and what follows it. -/
def readChar : List Char → Option (Char × List Char)
  | [] => none
  | c :: rest => if c = backslash then readEscape rest else some (c, rest)

theorem hexValue_hexDigit : ∀ n < 16, hexValue (hexDigit n) = n := by decide

/-- Four digits read back. -/
theorem hexValue4_hex4 {n : ℕ} (h : n < 65536) :
    hexValue4 (hexDigit (n / 4096 % 16)) (hexDigit (n / 256 % 16)) (hexDigit (n / 16 % 16))
      (hexDigit (n % 16)) = n := by
  have hmod : ∀ m, m % 16 < 16 := fun m => Nat.mod_lt m (by omega)
  rw [hexValue4, hexValue_hexDigit _ (hmod _), hexValue_hexDigit _ (hmod _),
    hexValue_hexDigit _ (hmod _), hexValue_hexDigit _ (hmod _)]
  omega

/-- A short escape read back. -/
theorem shortUnescape_of_shortEscape {c l : Char} (h : shortEscape c = some l) :
    l ≠ 'u' ∧ shortUnescape l = some c := by
  have hchar : ∀ n, c.toNat = n → c = Char.ofNat n := by
    intro n hn
    rw [← hn, Char.ofNat_toNat]
  unfold shortEscape at h
  split at h
  · next hc => subst hc; cases h; decide
  split at h
  · next hc => subst hc; cases h; decide
  split at h
  · next hc => rw [hchar _ hc]; cases h; decide
  split at h
  · next hc => rw [hchar _ hc]; cases h; decide
  split at h
  · next hc => rw [hchar _ hc]; cases h; decide
  split at h
  · next hc => rw [hchar _ hc]; cases h; decide
  split at h
  · next hc => rw [hchar _ hc]; cases h; decide
  · simp at h

/-- A character without a short escape is not the backslash or the quote. -/
theorem ne_of_shortEscape_eq_none {c : Char} (h : shortEscape c = none) :
    c ≠ backslash ∧ c ≠ quoteMark := by
  constructor
  · rintro rfl
    exact absurd h (by decide)
  · rintro rfl
    exact absurd h (by decide)

/-- The code point of a character is below the surrogates or above them. -/
theorem toNat_cases (c : Char) :
    c.toNat < 55296 ∨ (57343 < c.toNat ∧ c.toNat < 1114112) := c.valid

/-- A `\u` escape of a code unit that is no surrogate read back. -/
theorem readUnicode_hex4 {n : ℕ} (h : n < 65536) (hunit : n < 55296 ∨ 57343 < n)
    (rest : List Char) : readUnicode (hex4 n ++ rest) = some (Char.ofNat n, rest) := by
  show readUnicode (_ :: _ :: _ :: _ :: rest) = _
  rw [readUnicode, hexValue4_hex4 h, if_neg (by omega)]

/-- A surrogate pair read back. -/
theorem readUnicode_pair {m n : ℕ} (hm : m < 1024) (hn : n < 1024) (rest : List Char) :
    readUnicode (hex4 (55296 + m) ++ (unicodeEscape (56320 + n) ++ rest)) =
      some (Char.ofNat (65536 + (m * 1024 + n)), rest) := by
  show readUnicode (_ :: _ :: _ :: _ :: _ :: _ :: _ :: _ :: _ :: _ :: rest) = _
  rw [readUnicode, hexValue4_hex4 (by omega), if_pos (by omega), readSurrogate,
    hexValue4_hex4 (by omega), Nat.add_sub_cancel_left, Nat.add_sub_cancel_left]

/-- **A character read back.** -/
theorem readChar_escapeChar (c : Char) (rest : List Char) :
    readChar (escapeChar c ++ rest) = some (c, rest) := by
  have hescape : ∀ rest, readChar (backslash :: 'u' :: rest) = readUnicode rest := fun _ => rfl
  unfold escapeChar
  cases hshort : shortEscape c with
  | some l =>
    obtain ⟨hne, hread⟩ := shortUnescape_of_shortEscape hshort
    show readChar (backslash :: l :: rest) = _
    rw [readChar, if_pos rfl, readEscape, if_neg hne, hread, Option.map_some]
  | none =>
    obtain ⟨hne, -⟩ := ne_of_shortEscape_eq_none hshort
    dsimp only
    split
    · show readChar (c :: rest) = _
      rw [readChar, if_neg hne]
    split
    · next hlt =>
      show readChar (backslash :: 'u' :: (hex4 c.toNat ++ rest)) = _
      have hunit : c.toNat < 55296 ∨ 57343 < c.toNat := (toNat_cases c).imp_right And.left
      rw [hescape, readUnicode_hex4 hlt hunit, Char.ofNat_toNat]
    · next hge =>
      have hlt : c.toNat < 1114112 := by
        rcases toNat_cases c with h | h <;> omega
      rw [List.append_assoc]
      show readChar (backslash :: 'u' :: (hex4 _ ++ _)) = _
      rw [hescape, readUnicode_pair (by omega) (by omega)]
      have hsplit : 65536 + ((c.toNat - 65536) / 1024 * 1024 + (c.toNat - 65536) % 1024) =
          c.toNat := by omega
      rw [hsplit, Char.ofNat_toNat]

/-- An escaped character does not start with the quote. -/
theorem exists_escapeChar_eq (c : Char) : ∃ x xs, escapeChar c = x :: xs ∧ x ≠ quoteMark := by
  have hback : backslash ≠ quoteMark := by decide
  unfold escapeChar
  cases hshort : shortEscape c with
  | some l => exact ⟨_, _, rfl, hback⟩
  | none =>
    dsimp only
    split
    · exact ⟨c, [], rfl, (ne_of_shortEscape_eq_none hshort).2⟩
    split
    · exact ⟨_, _, rfl, hback⟩
    · exact ⟨_, _, rfl, hback⟩

/-- A string literal can be told from what follows it. -/
theorem quoteRest_inj {cs ds s s' : List Char} (h : quoteRest cs ++ s = quoteRest ds ++ s') :
    cs = ds ∧ s = s' := by
  induction cs generalizing ds with
  | nil =>
    cases ds with
    | nil => exact ⟨rfl, List.cons.inj h |>.2⟩
    | cons d ds =>
      obtain ⟨x, xs, heq, hne⟩ := exists_escapeChar_eq d
      rw [quoteRest, quoteRest, heq] at h
      exact absurd (List.cons.inj h).1 hne.symm
  | cons c cs ih =>
    cases ds with
    | nil =>
      obtain ⟨x, xs, heq, hne⟩ := exists_escapeChar_eq c
      rw [quoteRest, quoteRest, heq] at h
      exact absurd (List.cons.inj h).1 hne
    | cons d ds =>
      rw [quoteRest, quoteRest, List.append_assoc, List.append_assoc] at h
      have hread := congrArg readChar h
      rw [readChar_escapeChar, readChar_escapeChar] at hread
      obtain ⟨rfl, hrest⟩ := Prod.mk.inj (Option.some.inj hread)
      obtain ⟨rfl, rfl⟩ := ih hrest
      exact ⟨rfl, rfl⟩

theorem quote_inj {t t' : String} {s s' : List Char} (h : quote t ++ s = quote t' ++ s') :
    t = t' ∧ s = s' := by
  obtain ⟨heq, hrest⟩ := quoteRest_inj (List.cons.inj h).2
  exact ⟨String.toList_inj.mp heq, hrest⟩

/-! ### Numbers -/

/-- A character of the text of a number. -/
def numberChar (c : Char) : Bool := c.isDigit || c == '-'

/-- What follows a value does not go on with a number. -/
def Stops (s : List Char) : Prop := ∀ c ∈ s.head?, numberChar c = false

theorem stops_nil : Stops [] := by
  intro c hc
  cases hc

theorem stops_cons {c : Char} (s : List Char) (h : numberChar c = false) : Stops (c :: s) := by
  intro d hd
  obtain rfl := Option.some.inj hd
  exact h

theorem numberChar_of_mem {n : ℤ} {c : Char} (h : c ∈ (toString n).toList) :
    numberChar c = true := by
  have hdigit : ∀ m : ℕ, c ∈ m.repr.toList → numberChar c = true := by
    intro m hm
    rw [Nat.toList_repr] at hm
    rw [numberChar, Nat.isDigit_of_mem_toDigits (by omega) (by omega) hm, Bool.true_or]
  rw [Int.toString_eq_repr, Int.repr_eq_if] at h
  split at h
  · exact hdigit _ h
  · rw [String.toList_append, List.mem_append] at h
    rcases h with h | h
    · -- the minus sign
      rw [List.mem_singleton.mp (show c ∈ ['-'] from h)]
      rfl
    · exact hdigit _ h

theorem repr_inj {m n : ℕ} (h : m.repr.toList = n.repr.toList) : m = n := by
  rw [Nat.toList_repr, Nat.toList_repr] at h
  rw [← Nat.ofDigitChars_toDigits (n := m) (b := 10) (by omega) (by omega), h,
    Nat.ofDigitChars_toDigits (by omega) (by omega)]

/-- The text of a number determines it. -/
theorem toString_inj {m n : ℤ} (h : (toString m).toList = (toString n).toList) : m = n := by
  have hminus : ∀ (k : ℕ) (cs : List Char), k.repr.toList ≠ '-' :: cs := by
    intro k cs hk
    have hmem : '-' ∈ Nat.toDigits 10 k := by
      rw [← Nat.toList_repr, hk]
      exact List.mem_cons_self
    exact absurd (Nat.isDigit_of_mem_toDigits (by omega) (by omega) hmem) (by decide)
  have hneg : ∀ t : String, ("-" ++ t).toList = '-' :: t.toList := by
    intro t
    rw [String.toList_append]
    rfl
  rw [Int.toString_eq_repr, Int.toString_eq_repr, Int.repr_eq_if, Int.repr_eq_if] at h
  split at h
  · split at h
    · have hnat := repr_inj h
      omega
    · rw [hneg] at h
      exact absurd h (hminus _ _)
  · rw [hneg] at h
    split at h
    · exact absurd h.symm (hminus _ _)
    · rw [hneg] at h
      have hnat := repr_inj (List.cons.inj h).2
      omega

theorem takeWhile_number (n : ℤ) {s : List Char} (hs : Stops s) :
    ((toString n).toList ++ s).takeWhile numberChar = (toString n).toList := by
  rw [List.takeWhile_append_of_pos fun c => numberChar_of_mem]
  cases s with
  | nil => simp
  | cons c s => rw [List.takeWhile_cons_of_neg (by rw [hs c rfl]; simp), List.append_nil]

/-- A number can be told from what follows it. -/
theorem number_inj {m n : ℤ} {s s' : List Char} (hs : Stops s) (hs' : Stops s')
    (h : (toString m).toList ++ s = (toString n).toList ++ s') : m = n ∧ s = s' := by
  have htext : (toString m).toList = (toString n).toList := by
    rw [← takeWhile_number m hs, h, takeWhile_number n hs']
  refine ⟨toString_inj htext, ?_⟩
  rw [htext] at h
  exact List.append_cancel_left h

/-! ### Values -/

/-- What the first character of a text says of its value. -/
def leading (c : Char) : ℕ :=
  if c = 'n' then 0
  else if c = 't' ∨ c = 'f' then 1
  else if c = quoteMark then 2
  else if c = '[' then 3
  else if c = '{' then 4
  else if numberChar c then 5
  else 6

/-- The kind of a value, as `leading` counts them. -/
def kind : JsonValue → ℕ
  | null => 0
  | bool _ => 1
  | str _ => 2
  | arr _ => 3
  | obj _ => 4
  | num _ => 5

theorem leading_number (n : ℤ) : ∃ c cs, (toString n).toList = c :: cs ∧ leading c = 5 := by
  have hne : ∀ c, numberChar c = true → leading c = 5 := by
    intro c hc
    have hother : ∀ d, numberChar d = false → c ≠ d := by
      rintro d hd rfl
      rw [hc] at hd
      cases hd
    rw [leading, if_neg (hother _ rfl), if_neg (not_or.mpr ⟨hother _ rfl, hother _ rfl⟩),
      if_neg (hother _ (by decide)), if_neg (hother _ rfl), if_neg (hother _ rfl), if_pos hc]
  cases htext : (toString n).toList with
  | nil =>
    -- the text of no number is empty
    have hlen : (toString n).toList ≠ [] := by
      rw [Int.toString_eq_repr, Int.repr_eq_if]
      split
      · rw [Nat.toList_repr]
        exact Nat.toDigits_ne_nil
      · simp
    exact absurd htext hlen
  | cons c cs =>
    exact ⟨c, cs, rfl, hne c (numberChar_of_mem (n := n) (by rw [htext]; exact List.mem_cons_self))⟩

/-- The first character tells the kind of a value. -/
theorem leading_render (v : JsonValue) : ∃ c cs, render v = c :: cs ∧ leading c = v.kind := by
  cases v with
  | null => exact ⟨_, _, rfl, rfl⟩
  | bool b => cases b <;> exact ⟨_, _, rfl, rfl⟩
  | num n => exact leading_number n
  | str t => exact ⟨_, _, rfl, show leading quoteMark = 2 by decide⟩
  | arr items => exact ⟨_, _, rfl, rfl⟩
  | obj fields => exact ⟨_, _, rfl, rfl⟩

/-- Values with texts that start alike are of one kind. -/
theorem kind_eq {v w : JsonValue} {s s' : List Char} (h : render v ++ s = render w ++ s') :
    v.kind = w.kind := by
  obtain ⟨c, cs, hv, hc⟩ := leading_render v
  obtain ⟨d, ds, hw, hd⟩ := leading_render w
  rw [hv, hw] at h
  rw [← hc, ← hd, (List.cons.inj h).1]

/-- No value starts with a character that starts none. -/
theorem render_append_ne (v : JsonValue) (s s' : List Char) {d : Char} (hd : leading d = 6) :
    render v ++ s ≠ d :: s' := by
  obtain ⟨c, cs, hv, hc⟩ := leading_render v
  rw [hv]
  intro h
  obtain rfl : c = d := (List.cons.inj h).1
  rw [hd] at hc
  cases v <;> cases hc

/-- What stands after the first item of an array. -/
def itemsTail : List JsonValue → List Char
  | [] => [']']
  | x :: xs => ',' :: renderItems (x :: xs)

/-- What stands after the first field of an object. -/
def fieldsTail : List (String × JsonValue) → List Char
  | [] => ['}']
  | f :: fs => ',' :: renderFields (f :: fs)

theorem renderItems_cons (x : JsonValue) (xs : List JsonValue) :
    renderItems (x :: xs) = render x ++ itemsTail xs := by
  cases xs with
  | nil => rw [renderItems, itemsTail]
  | cons y ys => rw [renderItems, itemsTail]

theorem renderFields_cons (k : String) (v : JsonValue) (fs : List (String × JsonValue)) :
    renderFields ((k, v) :: fs) = quote k ++ (':' :: (render v ++ fieldsTail fs)) := by
  cases fs with
  | nil => rw [renderFields, fieldsTail, List.append_assoc, List.cons_append]
  | cons f fs => rw [renderFields, fieldsTail, List.append_assoc, List.cons_append]

theorem stops_itemsTail (xs : List JsonValue) (s : List Char) : Stops (itemsTail xs ++ s) := by
  cases xs with
  | nil => exact stops_cons _ rfl
  | cons x xs => exact stops_cons _ rfl

theorem stops_fieldsTail (fs : List (String × JsonValue)) (s : List Char) :
    Stops (fieldsTail fs ++ s) := by
  cases fs with
  | nil => exact stops_cons _ rfl
  | cons f fs => exact stops_cons _ rfl

/-- The text of the value can be told from what follows it. -/
def Delimited (v : JsonValue) : Prop :=
  ∀ w s s', Stops s → Stops s' → render v ++ s = render w ++ s' → v = w ∧ s = s'

/-- The items of an array can be told from what follows them. -/
theorem renderItems_inj {xs ys : List JsonValue} (hxs : ∀ x ∈ xs, Delimited x) {s s' : List Char}
    (h : renderItems xs ++ s = renderItems ys ++ s') : xs = ys ∧ s = s' := by
  induction xs generalizing ys with
  | nil =>
    cases ys with
    | nil => exact ⟨rfl, (List.cons.inj h).2⟩
    | cons y ys =>
      rw [renderItems_cons, List.append_assoc] at h
      exact absurd h.symm (render_append_ne y _ _ (by decide))
  | cons x xs ih =>
    cases ys with
    | nil =>
      rw [renderItems_cons, List.append_assoc] at h
      exact absurd h (render_append_ne x _ _ (by decide))
    | cons y ys =>
      rw [renderItems_cons, renderItems_cons, List.append_assoc, List.append_assoc] at h
      obtain ⟨rfl, htail⟩ := hxs x List.mem_cons_self y _ _ (stops_itemsTail xs s)
        (stops_itemsTail ys s') h
      -- a comma or the closing bracket comes next
      cases xs with
      | nil =>
        cases ys with
        | nil => exact ⟨rfl, (List.cons.inj htail).2⟩
        | cons y' ys => exact absurd (List.cons.inj htail).1 (by decide)
      | cons x' xs =>
        cases ys with
        | nil => exact absurd (List.cons.inj htail).1 (by decide)
        | cons y' ys =>
          obtain ⟨heq, hrest⟩ := ih (fun z hz => hxs z (List.mem_cons_of_mem _ hz))
            (List.cons.inj htail).2
          exact ⟨congrArg _ heq, hrest⟩

/-- The fields of an object can be told from what follows them. -/
theorem renderFields_inj {fs gs : List (String × JsonValue)} (hfs : ∀ f ∈ fs, Delimited f.2)
    {s s' : List Char} (h : renderFields fs ++ s = renderFields gs ++ s') :
    fs = gs ∧ s = s' := by
  induction fs generalizing gs with
  | nil =>
    cases gs with
    | nil => exact ⟨rfl, (List.cons.inj h).2⟩
    | cons g gs =>
      rw [renderFields_cons] at h
      exact absurd (List.cons.inj h).1 (by decide)
  | cons f fs ih =>
    cases gs with
    | nil =>
      rw [renderFields_cons] at h
      exact absurd (List.cons.inj h).1 (by decide)
    | cons g gs =>
      rw [renderFields_cons, renderFields_cons, List.append_assoc, List.append_assoc] at h
      obtain ⟨hkey, hrest⟩ := quote_inj h
      rw [List.cons_append, List.cons_append, List.append_assoc, List.append_assoc] at hrest
      obtain ⟨hvalue, htail⟩ := hfs f List.mem_cons_self g.2 _ _ (stops_fieldsTail fs s)
        (stops_fieldsTail gs s') (List.cons.inj hrest).2
      obtain rfl : f = g := Prod.ext hkey hvalue
      cases fs with
      | nil =>
        cases gs with
        | nil => exact ⟨rfl, (List.cons.inj htail).2⟩
        | cons g' gs => exact absurd (List.cons.inj htail).1 (by decide)
      | cons f' fs =>
        cases gs with
        | nil => exact absurd (List.cons.inj htail).1 (by decide)
        | cons g' gs =>
          obtain ⟨heq, hrest⟩ := ih (fun z hz => hfs z (List.mem_cons_of_mem _ hz))
            (List.cons.inj htail).2
          exact ⟨congrArg _ heq, hrest⟩

/-- A property of every value, from each value's parts to the value. -/
@[elab_as_elim]
theorem induct {P : JsonValue → Prop} (null : P null) (bool : ∀ b, P (bool b))
    (num : ∀ n, P (num n)) (str : ∀ t, P (str t))
    (arr : ∀ items, (∀ x ∈ items, P x) → P (arr items))
    (obj : ∀ fields, (∀ f ∈ fields, P f.2) → P (obj fields)) (v : JsonValue) : P v := by
  refine @JsonValue.rec P (fun items => ∀ x ∈ items, P x) (fun fields => ∀ f ∈ fields, P f.2)
    (fun f => P f.2) null bool num str arr obj ?_ ?_ ?_ ?_ ?_ v
  · intro x hx
    cases hx
  · intro x xs hx hxs y hy
    rcases List.mem_cons.mp hy with rfl | hy
    · exact hx
    · exact hxs y hy
  · intro f hf
    cases hf
  · intro f fs hf hfs g hg
    rcases List.mem_cons.mp hg with rfl | hg
    · exact hf
    · exact hfs g hg
  · intro k v hv
    exact hv

/-- **A value can be told from what follows it.** -/
theorem delimited (v : JsonValue) : Delimited v := by
  induction v using induct with
  | null =>
    intro w s s' _ _ h
    -- two texts that begin alike are of values of one kind
    cases w with
    | null => exact ⟨rfl, List.append_cancel_left h⟩
    | _ => exact absurd (kind_eq h) (by simp [kind])
  | bool b =>
    intro w s s' _ _ h
    cases w with
    | bool b' => cases b <;> cases b' <;> simp_all [render]
    | _ => exact absurd (kind_eq h) (by simp [kind])
  | num n =>
    intro w s s' hs hs' h
    cases w with
    | num n' =>
      obtain ⟨rfl, hrest⟩ := number_inj hs hs' h
      exact ⟨rfl, hrest⟩
    | _ => exact absurd (kind_eq h) (by simp [kind])
  | str t =>
    intro w s s' _ _ h
    cases w with
    | str t' =>
      obtain ⟨rfl, hrest⟩ := quote_inj h
      exact ⟨rfl, hrest⟩
    | _ => exact absurd (kind_eq h) (by simp [kind])
  | arr items ih =>
    intro w s s' _ _ h
    cases w with
    | arr items' =>
      obtain ⟨rfl, hrest⟩ := renderItems_inj ih (List.cons.inj h).2
      exact ⟨rfl, hrest⟩
    | _ => exact absurd (kind_eq h) (by simp [kind])
  | obj fields ih =>
    intro w s s' _ _ h
    cases w with
    | obj fields' =>
      obtain ⟨rfl, hrest⟩ := renderFields_inj ih (List.cons.inj h).2
      exact ⟨rfl, hrest⟩
    | _ => exact absurd (kind_eq h) (by simp [kind])

/-- **The text determines the value.** -/
theorem render_injective : Function.Injective render := by
  intro v w h
  have happend : render v ++ [] = render w ++ [] := by rw [h]
  exact (delimited v w [] [] stops_nil stops_nil happend).1

/-! ### The order of fields -/

/-- The value of a field of an object. -/
def field (k : String) : JsonValue → Option JsonValue
  | obj fields => fields.lookup k
  | _ => none

/-- No object of the value repeats a key. -/
inductive Keyed : JsonValue → Prop
  | null : Keyed null
  | bool (b : Bool) : Keyed (bool b)
  | num (n : ℤ) : Keyed (num n)
  | str (t : String) : Keyed (str t)
  | arr {items : List JsonValue} (h : ∀ x ∈ items, Keyed x) : Keyed (arr items)
  | obj {fields : List (String × JsonValue)} (hkeys : (fields.map Prod.fst).Nodup)
      (h : ∀ f ∈ fields, Keyed f.2) : Keyed (obj fields)

attribute [simp] Keyed.null Keyed.bool Keyed.num Keyed.str

@[simp] theorem keyed_arr {items : List JsonValue} :
    Keyed (.arr items) ↔ ∀ x ∈ items, Keyed x := by
  constructor
  · rintro ⟨⟩
    assumption
  · exact .arr

@[simp] theorem keyed_obj {fields : List (String × JsonValue)} :
    Keyed (.obj fields) ↔ (fields.map Prod.fst).Nodup ∧ ∀ f ∈ fields, Keyed f.2 := by
  constructor
  · rintro ⟨⟩
    constructor
    · assumption
    · assumption
  · rintro ⟨hkeys, h⟩
    exact .obj hkeys h

@[simp] theorem keyed_ofOption {α : Type} {f : α → JsonValue} {o : Option α} :
    Keyed (.ofOption f o) ↔ ∀ a ∈ o, Keyed (f a) := by
  cases o with
  | none => simp [ofOption]
  | some a => simp [ofOption]

/-- The second value is the first with the fields of its objects in another order. -/
inductive Reordered : JsonValue → JsonValue → Prop
  | refl (v : JsonValue) : Reordered v v
  | trans {u v w : JsonValue} : Reordered u v → Reordered v w → Reordered u w
  | perm {fields fields' : List (String × JsonValue)} (h : fields.Perm fields') :
      Reordered (obj fields) (obj fields')
  | item {x y : JsonValue} (l r : List JsonValue) :
      Reordered x y → Reordered (arr (l ++ x :: r)) (arr (l ++ y :: r))
  | field {x y : JsonValue} (k : String) (l r : List (String × JsonValue)) :
      Reordered x y → Reordered (obj (l ++ (k, x) :: r)) (obj (l ++ (k, y) :: r))

instance : Std.Total fun f g : String × JsonValue => f.1 ≤ g.1 := ⟨fun f g => le_total f.1 g.1⟩

instance : IsTrans (String × JsonValue) fun f g => f.1 ≤ g.1 := ⟨fun _ _ _ => le_trans⟩

/-- `sortKeys` inside a field. -/
def sortField (f : String × JsonValue) : String × JsonValue := (f.1, f.2.sortKeys)

theorem sortItems_eq (items : List JsonValue) : sortItems items = items.map sortKeys := by
  induction items with
  | nil => rw [sortItems, List.map_nil]
  | cons x xs ih => rw [sortItems, ih, List.map_cons]

theorem sortFields_eq (fields : List (String × JsonValue)) :
    sortFields fields = fields.map sortField := by
  induction fields with
  | nil => rw [sortFields, List.map_nil]
  | cons f fs ih => rw [sortFields, ih, List.map_cons, sortField]

theorem sortKeys_arr (items : List JsonValue) :
    sortKeys (arr items) = arr (items.map sortKeys) := by
  rw [sortKeys, sortItems_eq]

theorem sortKeys_obj (fields : List (String × JsonValue)) :
    sortKeys (obj fields) = obj ((fields.map sortField).insertionSort fun f g => f.1 ≤ g.1) := by
  rw [sortKeys, sortFields_eq]

theorem map_fst_sortField (fields : List (String × JsonValue)) :
    (fields.map sortField).map Prod.fst = fields.map Prod.fst := by
  rw [List.map_map]
  rfl

/-- Fields with different keys have one sorted order. -/
theorem insertionSort_eq_of_perm {fs gs : List (String × JsonValue)} (h : fs.Perm gs)
    (hkeys : (fs.map Prod.fst).Nodup) :
    (fs.insertionSort fun f g => f.1 ≤ g.1) = gs.insertionSort fun f g => f.1 ≤ g.1 := by
  have hperm := ((fs.perm_insertionSort fun f g => f.1 ≤ g.1).trans h).trans
    (gs.perm_insertionSort fun f g => f.1 ≤ g.1).symm
  refine hperm.eq_of_pairwise ?_ (fs.pairwise_insertionSort _) (gs.pairwise_insertionSort _)
  intro f g hf hg hle hge
  have hmem : f ∈ fs ∧ g ∈ fs :=
    ⟨(List.mem_insertionSort _).mp hf, h.mem_iff.mpr ((List.mem_insertionSort _).mp hg)⟩
  exact List.inj_on_of_nodup_map hkeys hmem.1 hmem.2 (le_antisymm hle hge)

theorem Keyed.item {l r : List JsonValue} {x : JsonValue} (h : Keyed (.arr (l ++ x :: r))) :
    Keyed x := by
  cases h with
  | arr h => exact h x (by simp)

theorem Keyed.field {l r : List (String × JsonValue)} {k : String} {x : JsonValue}
    (h : Keyed (.obj (l ++ (k, x) :: r))) : Keyed x := by
  cases h with
  | obj _ h => exact h (k, x) (by simp)

/-- Reordering repeats no key. -/
theorem Reordered.keyed {v w : JsonValue} (h : Reordered v w) (hv : Keyed v) : Keyed w := by
  induction h with
  | refl => exact hv
  | trans _ _ ih₁ ih₂ => exact ih₂ (ih₁ hv)
  | perm h =>
    cases hv with
    | obj hkeys hfields =>
      refine .obj ((h.map _).nodup_iff.mp hkeys) ?_
      intro f hf
      exact hfields f (h.mem_iff.mpr hf)
  | @item x y l r _ ih =>
    have hy := ih hv.item
    cases hv with
    | arr hitems =>
      refine .arr ?_
      intro z hz
      rw [List.mem_append, List.mem_cons] at hz
      rcases hz with hz | rfl | hz
      · exact hitems z (by simp [hz])
      · exact hy
      · exact hitems z (by simp [hz])
  | @field x y k l r _ ih =>
    have hy := ih hv.field
    cases hv with
    | obj hkeys hfields =>
      refine .obj (by simpa using hkeys) ?_
      intro f hf
      rw [List.mem_append, List.mem_cons] at hf
      rcases hf with hf | rfl | hf
      · exact hfields f (by simp [hf])
      · exact hy
      · exact hfields f (by simp [hf])

theorem Reordered.symm {v w : JsonValue} (h : Reordered v w) : Reordered w v := by
  induction h with
  | refl => exact .refl _
  | trans _ _ ih₁ ih₂ => exact ih₂.trans ih₁
  | perm h => exact .perm h.symm
  | item l r _ ih => exact .item l r ih
  | field k l r _ ih => exact .field k l r ih

/-- Sorting the keys undoes a reordering. -/
theorem Reordered.sortKeys_eq {v w : JsonValue} (h : Reordered v w) (hv : Keyed v) :
    v.sortKeys = w.sortKeys := by
  induction h with
  | refl => rfl
  | trans h₁ _ ih₁ ih₂ => exact (ih₁ hv).trans (ih₂ (h₁.keyed hv))
  | perm h =>
    cases hv with
    | obj hkeys _ =>
      rw [sortKeys_obj, sortKeys_obj]
      refine congrArg _ (insertionSort_eq_of_perm (h.map _) ?_)
      rw [map_fst_sortField]
      exact hkeys
  | item l r _ ih =>
    rw [sortKeys_arr, sortKeys_arr, List.map_append, List.map_append, List.map_cons,
      List.map_cons, ih hv.item]
  | field k l r _ ih =>
    rw [sortKeys_obj, sortKeys_obj, List.map_append, List.map_append, List.map_cons,
      List.map_cons, sortField, sortField, ih hv.field]

/-- Reordering inside the items of an array, from the first on. -/
theorem reordered_items {g : JsonValue → JsonValue} {xs : List JsonValue}
    (h : ∀ x ∈ xs, Reordered x (g x)) (l : List JsonValue) :
    Reordered (arr (l ++ xs)) (arr (l ++ xs.map g)) := by
  induction xs generalizing l with
  | nil => exact .refl _
  | cons x xs ih =>
    have hrest := ih (fun y hy => h y (List.mem_cons_of_mem _ hy)) (l ++ [g x])
    rw [List.append_assoc, List.append_assoc] at hrest
    exact .trans (.item l xs (h x List.mem_cons_self)) hrest

/-- Reordering inside the fields of an object, from the first on. -/
theorem reordered_fields {fs : List (String × JsonValue)}
    (h : ∀ f ∈ fs, Reordered f.2 f.2.sortKeys) (l : List (String × JsonValue)) :
    Reordered (obj (l ++ fs)) (obj (l ++ fs.map sortField)) := by
  induction fs generalizing l with
  | nil => exact .refl _
  | cons f fs ih =>
    have hrest := ih (fun y hy => h y (List.mem_cons_of_mem _ hy)) (l ++ [sortField f])
    rw [List.append_assoc, List.append_assoc] at hrest
    exact .trans (.field f.1 l fs (h f List.mem_cons_self)) hrest

/-- Sorting the keys is a reordering. -/
theorem reordered_sortKeys (v : JsonValue) : Reordered v v.sortKeys := by
  induction v using induct with
  | arr items ih =>
    rw [sortKeys_arr]
    exact reordered_items ih []
  | obj fields ih =>
    rw [sortKeys_obj]
    exact .trans (reordered_fields ih []) (.perm (List.perm_insertionSort _ _).symm)
  | _ => rw [sortKeys]; exact .refl _

theorem dumps_inj {v w : JsonValue} : v.dumps = w.dumps ↔ v.sortKeys = w.sortKeys := by
  constructor
  · intro h
    exact render_injective (String.ofList_injective h)
  · intro h
    rw [dumps, h, dumps]

/-- **Canonical texts are equal exactly up to the order of fields.** -/
theorem dumps_eq_iff {v w : JsonValue} (hv : Keyed v) : v.dumps = w.dumps ↔ Reordered v w := by
  rw [dumps_inj]
  constructor
  · intro h
    have hw := (reordered_sortKeys w).symm
    rw [← h] at hw
    exact (reordered_sortKeys v).trans hw
  · intro h
    exact h.sortKeys_eq hv

/-! ### Fields -/

/-- Fields with different keys can be looked up in any order. -/
theorem lookup_eq_of_perm {fs gs : List (String × JsonValue)} (h : fs.Perm gs)
    (hkeys : (fs.map Prod.fst).Nodup) (k : String) : fs.lookup k = gs.lookup k := by
  induction h with
  | nil => rfl
  | cons f _ ih =>
    rw [List.lookup_cons, List.lookup_cons, ih (List.nodup_cons.mp hkeys).2]
  | swap f g l =>
    have hne : g.1 ≠ f.1 := by
      intro heq
      simp [heq] at hkeys
    rw [List.lookup_cons, List.lookup_cons, List.lookup_cons, List.lookup_cons]
    cases hf : k == f.1 with
    | false => rfl
    | true =>
      have hg : (k == g.1) = false := by
        rw [beq_eq_false_iff_ne, eq_of_beq hf]
        exact hne.symm
      rw [hg]
  | trans h₁ _ ih₁ ih₂ =>
    exact (ih₁ hkeys).trans (ih₂ ((h₁.map _).nodup_iff.mp hkeys))

theorem lookup_map_snd (g : JsonValue → JsonValue) (fs : List (String × JsonValue)) (k : String) :
    (fs.map fun f => (f.1, g f.2)).lookup k = (fs.lookup k).map g := by
  induction fs with
  | nil => rfl
  | cons f fs ih =>
    rw [List.map_cons, List.lookup_cons, List.lookup_cons, ih]
    cases k == f.1 with
    | false => rfl
    | true => rfl

/-- A field of the value with its keys in order. -/
theorem field_sortKeys {v : JsonValue} (hv : Keyed v) (k : String) :
    v.sortKeys.field k = (v.field k).map sortKeys := by
  cases hv with
  | obj hkeys _ =>
    rename_i fields
    rw [sortKeys_obj, JsonValue.field, JsonValue.field, ← lookup_map_snd]
    refine lookup_eq_of_perm (List.perm_insertionSort _ _) ?_ k
    rw [((List.perm_insertionSort _ _).map _).nodup_iff, map_fst_sortField]
    exact hkeys
  | _ => rfl

/-- A field of a value repeats no key. -/
theorem Keyed.of_field {v x : JsonValue} (hv : Keyed v) {k : String} (h : v.field k = some x) :
    Keyed x := by
  cases hv with
  | @obj fields _ hfields =>
    obtain ⟨l, r, heq, -⟩ := List.lookup_eq_some_iff.mp (show fields.lookup k = some x from h)
    exact hfields (k, x) (by simp [heq])
  | _ => cases h

theorem kind_sortKeys (v : JsonValue) : v.sortKeys.kind = v.kind := by
  cases v <;> rw [sortKeys] <;> rfl

/-! ### String values -/

mutual

/-- The value with `g` applied to every string in it, keys aside. -/
def mapStrings (g : String → String) : JsonValue → JsonValue
  | null => null
  | bool b => bool b
  | num n => num n
  | str t => str (g t)
  | arr items => arr (mapItems g items)
  | obj fields => obj (mapFields g fields)

/-- `mapStrings` inside every item. -/
def mapItems (g : String → String) : List JsonValue → List JsonValue
  | [] => []
  | x :: xs => mapStrings g x :: mapItems g xs

/-- `mapStrings` inside every field. -/
def mapFields (g : String → String) : List (String × JsonValue) → List (String × JsonValue)
  | [] => []
  | (k, v) :: fs => (k, mapStrings g v) :: mapFields g fs

end

theorem mapItems_eq (g : String → String) (items : List JsonValue) :
    mapItems g items = items.map (mapStrings g) := by
  induction items with
  | nil => rw [mapItems, List.map_nil]
  | cons x xs ih => rw [mapItems, ih, List.map_cons]

theorem mapFields_eq (g : String → String) (fields : List (String × JsonValue)) :
    mapFields g fields = fields.map fun f => (f.1, f.2.mapStrings g) := by
  induction fields with
  | nil => rw [mapFields, List.map_nil]
  | cons f fs ih => rw [mapFields, ih, List.map_cons]

theorem kind_mapStrings (g : String → String) (v : JsonValue) :
    (v.mapStrings g).kind = v.kind := by
  cases v <;> rw [mapStrings] <;> rfl

theorem field_mapStrings (g : String → String) (v : JsonValue) (k : String) :
    (v.mapStrings g).field k = (v.field k).map (mapStrings g) := by
  cases v with
  | obj fields =>
    rw [mapStrings, mapFields_eq, field, field, lookup_map_snd]
  | _ => rw [mapStrings]; rfl

/-- Other texts repeat no key. -/
theorem Keyed.mapStrings {v : JsonValue} (h : Keyed v) (g : String → String) :
    Keyed (v.mapStrings g) := by
  induction h with
  | null => rw [JsonValue.mapStrings]; exact .null
  | bool b => rw [JsonValue.mapStrings]; exact .bool b
  | num n => rw [JsonValue.mapStrings]; exact .num n
  | str t => rw [JsonValue.mapStrings]; exact .str _
  | arr _ ih =>
    rw [JsonValue.mapStrings, mapItems_eq]
    refine .arr ?_
    intro y hy
    obtain ⟨x, hx, rfl⟩ := List.mem_map.mp hy
    exact ih x hx
  | obj hkeys _ ih =>
    rw [JsonValue.mapStrings, mapFields_eq]
    refine .obj ?_ ?_
    · rw [List.map_map]
      exact hkeys
    · intro g hg
      obtain ⟨f, hf, rfl⟩ := List.mem_map.mp hg
      exact ih f hf

end JsonValue
