import Gatehouse.Proofs.Json.Printing
import Gatehouse.Proofs.Json.Tokens
import Gatehouse.Proofs.Text.Utf8

/-!
# Every JSON text is read

However a value is written, the reader finds that value: `parse_of_isDocument`.  So a text is the
text of one value only: `IsDocument.unique`.

The proof goes along the grammar, with one lemma for each way to write something.  The fuel is the
number of characters of what is read, since every part of a value is shorter than the value.
-/

set_option autoImplicit false

namespace Gatehouse
namespace Json
section Reading

-- every lemma below starts from one of these equations
attribute [local simp] readValue readElements readMembers

variable {cs ds gap : List Char} {rest : List Symbol}

/-! ## Values -/

theorem ends_cons {c : Char} (h : c ∈ [',', ']', '}']) (rest : List Symbol) :
    Ends (some c :: rest) := by
  intro s hs
  cases hs
  simp only [List.mem_cons, List.not_mem_nil, or_false] at h
  rcases h with rfl | rfl | rfl <;> decide

theorem Ends.blanks (h : Ends rest) (hgap : AreBlanks gap) : Ends (symbols gap ++ rest) := by
  cases gap with
  | nil => exact h
  | cons c gap =>
    intro s hs
    cases hs
    have hc := hgap c List.mem_cons_self
    simp only [List.mem_cons, List.not_mem_nil, or_false] at hc
    rcases hc with rfl | rfl | rfl | rfl <;> decide

theorem readValue_skipGap (fuel : Nat) (cs : List Symbol) :
    readValue fuel (skipGap cs) = readValue fuel cs := by
  cases fuel with
  | zero => simp
  | succ fuel => simp [skipGap_skipGap]

theorem readElements_skipGap (fuel : Nat) (cs : List Symbol) :
    readElements fuel (skipGap cs) = readElements fuel cs := by
  cases fuel with
  | zero => simp
  | succ fuel => simp [readValue_skipGap]

theorem readMembers_skipGap (fuel : Nat) (cs : List Symbol) :
    readMembers fuel (skipGap cs) = readMembers fuel cs := by
  cases fuel with
  | zero => simp
  | succ fuel => simp [skipGap_skipGap]

theorem toList_null : "null".toList = ['n', 'u', 'l', 'l'] := rfl

theorem toList_true : "true".toList = ['t', 'r', 'u', 'e'] := rfl

theorem toList_false : "false".toList = ['f', 'a', 'l', 's', 'e'] := rfl

theorem afterWord_eq {word : String} {w : Char} {ws : List Char} (hword : word.toList = w :: ws)
    (rest : List Symbol) : afterWord word (some w :: (symbols ws ++ rest)) = some rest := by
  have hwhole : word.toList.map some = some w :: symbols ws := by rw [hword]; rfl
  have hstart : (some w :: symbols ws).isPrefixOf (some w :: (symbols ws ++ rest)) = true :=
    List.isPrefixOf_iff_prefix.2 (List.prefix_append (some w :: symbols ws) rest)
  rw [afterWord, hwhole, if_pos hstart]
  show some (((some w :: symbols ws) ++ rest).drop (some w :: symbols ws).length) = some rest
  rw [List.drop_left]

theorem afterWord_of_ne {word : String} {w c : Char} {ws : List Char}
    (hword : word.toList = w :: ws)
    (h : c ≠ w) (rest : List Symbol) : afterWord word (some c :: rest) = none := by
  rw [afterWord, hword]
  exact if_neg (by simp [Ne.symm h])

/-- A value that starts with none of the four characters is a word or a number without a sign. -/
theorem readValue_plain {c : Char} (hgap : isGap (some c) = false) (h : c ∉ ['{', '[', '"', '-'])
    (fuel : Nat) (rest : List Symbol) :
    readValue (fuel + 1) (some c :: rest) =
      ((afterWord "null" (some c :: rest)).map fun after => (.null, after)).or
        (((afterWord "true" (some c :: rest)).map fun after => (.bool true, after)).or
          (((afterWord "false" (some c :: rest)).map fun after => (.bool false, after)).or
            ((readNumber false (some c :: rest)).map fun r => (.number r.1, r.2)))) := by
  rw [readValue, skipGap_cons hgap]
  split
  · next heq => cases heq; simp at h
  · next heq => cases heq; simp at h
  · next heq => cases heq; simp at h
  · next heq => cases heq; simp at h
  · cases afterWord "null" (some c :: rest) with
    | some after => rfl
    | none =>
      cases afterWord "true" (some c :: rest) with
      | some after => rfl
      | none =>
        cases afterWord "false" (some c :: rest) with
        | some after => rfl
        | none => rfl

theorem readValue_quote (fuel : Nat) (rest : List Symbol) :
    readValue (fuel + 1) (some '"' :: rest) =
      (readString rest).map fun r => (.string r.1, r.2) := by
  simp [skipGap_cons (s := some '"') rfl]

theorem readValue_minus (fuel : Nat) (rest : List Symbol) :
    readValue (fuel + 1) (some '-' :: rest) =
      (readNumber true rest).map fun r => (.number r.1, r.2) := by
  simp [skipGap_cons (s := some '-') rfl]

theorem readValue_emptyArray {after : List Symbol} (h : skipGap rest = some ']' :: after)
    (fuel : Nat) :
    readValue (fuel + 1) (some '[' :: rest) = some (.array [], after) := by
  simp [skipGap_cons (s := some '[') rfl, h]

theorem readValue_emptyObject {after : List Symbol} (h : skipGap rest = some '}' :: after)
    (fuel : Nat) :
    readValue (fuel + 1) (some '{' :: rest) = some (.object [], after) := by
  simp [skipGap_cons (s := some '{') rfl, h]

/-- No value starts with a bracket that closes. -/
theorem readValue_closing {c : Char} (h : c ∈ [']', '}']) (fuel : Nat) (rest : List Symbol) :
    readValue fuel (some c :: rest) = none := by
  cases fuel with
  | zero => simp
  | succ fuel =>
    simp only [List.mem_cons, List.not_mem_nil, or_false] at h
    rcases h with rfl | rfl <;> rfl

theorem readElements_closing (fuel : Nat) (rest : List Symbol) :
    readElements fuel (some ']' :: rest) = none := by
  cases fuel with
  | zero => simp
  | succ fuel => rw [readElements, readValue_closing (by decide)]

theorem readMembers_closing (fuel : Nat) (rest : List Symbol) :
    readMembers fuel (some '}' :: rest) = none := by
  cases fuel with
  | zero => simp
  | succ fuel => simp [skipGap_cons (s := some '}') rfl]

theorem readValue_array {fuel : Nat} {es : List Json} {after : List Symbol}
    (h : readElements fuel rest = some (es, after)) :
    readValue (fuel + 1) (some '[' :: rest) = some (.array es, after) := by
  rw [← readElements_skipGap] at h
  have hopen : skipGap rest ≠ some ']' :: (skipGap rest).tail := by
    -- a bracket that closes would be no element
    intro hclosing
    rw [hclosing, readElements_closing] at h
    cases h
  rw [readValue, skipGap_cons (by decide)]
  split
  · next heq => simp at heq
  · next heq =>
    cases heq
    split
    · next hclosing => exact absurd (by rw [hclosing]; rfl) hopen
    · rw [h]
      rfl
  · next heq => simp at heq
  · next heq => simp at heq
  · next hbrace hbracket hquote hminus => exact absurd rfl (hbracket _)

theorem readValue_object {fuel : Nat} {ms : List (Option String × Json)} {after : List Symbol}
    (h : readMembers fuel rest = some (ms, after)) :
    readValue (fuel + 1) (some '{' :: rest) = some (.object ms, after) := by
  rw [← readMembers_skipGap] at h
  have hopen : skipGap rest ≠ some '}' :: (skipGap rest).tail := by
    -- a brace that closes would be no member
    intro hclosing
    rw [hclosing, readMembers_closing] at h
    cases h
  rw [readValue, skipGap_cons (by decide)]
  split
  · next heq =>
    cases heq
    split
    · next hclosing => exact absurd (by rw [hclosing]; rfl) hopen
    · rw [h]
      rfl
  · next heq => simp at heq
  · next heq => simp at heq
  · next heq => simp at heq
  · next hbrace hbracket hquote hminus => exact absurd rfl (hbrace _)

theorem readValue_digit {d : Char} (hd : d.isDigit = true) (fuel : Nat) (rest : List Symbol) :
    readValue (fuel + 1) (some d :: rest) =
      (readNumber false (some d :: rest)).map fun r => (.number r.1, r.2) := by
  have hne (c : Char) (hc : c.isDigit = false) : d ≠ c := by
    rintro rfl
    rw [hd] at hc
    cases hc
  have hgap : isGap (some d) = false := by
    simp [isGap, hne ' ' rfl, hne '\n' rfl, hne '\t' rfl, hne '\r' rfl]
  have hother : d ∉ ['{', '[', '"', '-'] := by
    simp [hne '{' rfl, hne '[' rfl, hne '"' rfl, hne '-' rfl]
  rw [readValue_plain hgap hother, afterWord_of_ne toList_null (hne 'n' rfl),
    afterWord_of_ne toList_true (hne 't' rfl),
    afterWord_of_ne toList_false (hne 'f' rfl)]
  rfl

/-! ## Everything -/

/-- What reading something comes to, with what stands behind it. -/
def IsRead : Form → List Char → Prop
  | .value v, cs => ∀ fuel rest, cs.length ≤ fuel → Ends rest →
    readValue fuel (symbols cs ++ rest) = some (v, rest)
  | .elements es, cs => ∀ fuel rest, cs.length ≤ fuel →
    readElements fuel (symbols cs ++ rest) = some (es, rest)
  | .member m, cs => ∀ fuel rest, cs.length ≤ fuel →
    readMembers (fuel + 1) (symbols cs ++ some '}' :: rest) = some ([m], rest) ∧
    readMembers (fuel + 1) (symbols cs ++ some ',' :: rest) =
      (readMembers fuel rest).map fun r => (m :: r.1, r.2)
  | .members ms, cs => ∀ fuel rest, cs.length ≤ fuel →
    readMembers fuel (symbols cs ++ rest) = some (ms, rest)

/-- The first character of a value takes one piece of fuel. -/
theorem isRead_cons {v : Json} {c : Char}
    (h : ∀ fuel rest, cs.length ≤ fuel → Ends rest →
      readValue (fuel + 1) (some c :: (symbols cs ++ rest)) = some (v, rest)) :
    IsRead (.value v) (c :: cs) := by
  intro fuel rest hfuel hrest
  cases fuel with
  | zero => cases hfuel
  | succ fuel => exact h fuel rest (Nat.le_of_succ_le_succ hfuel) hrest

theorem isRead_null : IsRead (.value .null) "null".toList := by
  rw [toList_null]
  refine isRead_cons fun fuel rest _ _ => ?_
  rw [readValue_plain (by decide) (by decide), afterWord_eq toList_null]
  rfl

theorem isRead_true : IsRead (.value (.bool true)) "true".toList := by
  rw [toList_true]
  refine isRead_cons fun fuel rest _ _ => ?_
  rw [readValue_plain (by decide) (by decide), afterWord_of_ne toList_null (by decide),
    afterWord_eq toList_true]
  rfl

theorem isRead_false : IsRead (.value (.bool false)) "false".toList := by
  rw [toList_false]
  refine isRead_cons fun fuel rest _ _ => ?_
  rw [readValue_plain (by decide) (by decide), afterWord_of_ne toList_null (by decide),
    afterWord_of_ne toList_true (by decide), afterWord_eq toList_false]
  rfl

theorem isRead_number {n : Number} (h : SpellsNumber n cs) : IsRead (.value (.number n)) cs := by
  intro fuel rest hfuel hrest
  obtain ⟨d, ds, rfl, hd, hread⟩ | ⟨ds, rfl, hread⟩ := readNumber_of_spellsNumber h hrest
  · cases fuel with
    | zero => cases hfuel
    | succ fuel =>
      rw [symbols_cons, List.cons_append] at hread ⊢
      rw [readValue_digit hd, hread]
      rfl
  · cases fuel with
    | zero => cases hfuel
    | succ fuel =>
      rw [symbols_cons, List.cons_append, readValue_minus, hread]
      rfl

theorem isRead_string {text : List Char} (h : SpellsText text cs) :
    IsRead (.value (.string (some (String.ofList text)))) ('"' :: (cs ++ ['"'])) := by
  refine isRead_cons fun fuel rest _ _ => ?_
  rw [readValue_quote, symbols_append, List.append_assoc]
  exact congrArg (Option.map _) (readString_of_spellsText h rest)

theorem isRead_emptyArray (hgap : AreBlanks gap) :
    IsRead (.value (.array [])) ('[' :: (gap ++ [']'])) := by
  refine isRead_cons fun fuel rest _ _ => readValue_emptyArray ?_ fuel
  rw [symbols_append, List.append_assoc, skipGap_blanks hgap]
  rfl

theorem isRead_array {es : List Json} (h : IsRead (.elements es) cs) :
    IsRead (.value (.array es)) ('[' :: cs) :=
  isRead_cons fun fuel rest hfuel _ => readValue_array (h fuel rest hfuel)

theorem isRead_emptyObject (hgap : AreBlanks gap) :
    IsRead (.value (.object [])) ('{' :: (gap ++ ['}'])) := by
  refine isRead_cons fun fuel rest _ _ => readValue_emptyObject ?_ fuel
  rw [symbols_append, List.append_assoc, skipGap_blanks hgap]
  rfl

theorem isRead_object {ms : List (Option String × Json)} (h : IsRead (.members ms) cs) :
    IsRead (.value (.object ms)) ('{' :: cs) :=
  isRead_cons fun fuel rest hfuel _ => readValue_object (h fuel rest hfuel)

theorem isRead_blanks {v : Json} (hgap : AreBlanks gap) (h : IsRead (.value v) cs) :
    IsRead (.value v) (gap ++ cs) := by
  intro fuel rest hfuel hrest
  rw [List.length_append] at hfuel
  rw [symbols_append, List.append_assoc, ← readValue_skipGap, skipGap_blanks hgap,
    readValue_skipGap]
  exact h fuel rest (by omega) hrest

theorem isRead_lastElement {v : Json} (h : IsRead (.value v) cs) (hgap : AreBlanks gap) :
    IsRead (.elements [v]) (cs ++ (gap ++ [']'])) := by
  intro fuel rest hfuel
  simp only [List.length_append, List.length_cons, List.length_nil] at hfuel
  cases fuel with
  | zero => omega
  | succ fuel =>
    have hread := h fuel (symbols gap ++ some ']' :: rest) (by omega)
      ((ends_cons (by decide) rest).blanks hgap)
    simp [hread, hgap, skipGap_cons (s := some ']') rfl]

theorem isRead_element {v : Json} {es : List Json} (h : IsRead (.value v) cs) (hgap : AreBlanks gap)
    (hes : IsRead (.elements es) ds) : IsRead (.elements (v :: es)) (cs ++ (gap ++ ',' :: ds)) := by
  intro fuel rest hfuel
  simp only [List.length_append, List.length_cons] at hfuel
  cases fuel with
  | zero => omega
  | succ fuel =>
    have hread := h fuel (symbols gap ++ some ',' :: (symbols ds ++ rest)) (by omega)
      ((ends_cons (by decide) _).blanks hgap)
    simp [hread, hgap, skipGap_cons (s := some ',') rfl, hes fuel rest (by omega)]

theorem isRead_lastMember {m : Option String × Json} (h : IsRead (.member m) cs) :
    IsRead (.members [m]) (cs ++ ['}']) := by
  intro fuel rest hfuel
  rw [List.length_append] at hfuel
  cases fuel with
  | zero => cases hfuel
  | succ fuel =>
    rw [symbols_append, List.append_assoc]
    exact (h fuel rest (Nat.le_of_succ_le_succ hfuel)).1

theorem isRead_members {m : Option String × Json} {ms : List (Option String × Json)}
    (h : IsRead (.member m) cs) (hms : IsRead (.members ms) ds) :
    IsRead (.members (m :: ms)) (cs ++ ',' :: ds) := by
  intro fuel rest hfuel
  rw [List.length_append, List.length_cons] at hfuel
  cases fuel with
  | zero => omega
  | succ fuel =>
    rw [symbols_append, List.append_assoc, symbols_cons, List.cons_append,
      (h fuel (symbols ds ++ rest) (by omega)).2, hms fuel rest (by omega)]
    rfl

theorem isRead_member {key ks before between : List Char} {v : Json} (hbefore : AreBlanks before)
    (hkey : SpellsText key ks) (hbetween : AreBlanks between) (h : IsRead (.value v) cs)
    (hgap : AreBlanks gap) :
    IsRead (.member (some (String.ofList key), v))
      (before ++ ('"' :: (ks ++ '"' :: (between ++ ':' :: (cs ++ gap))))) := by
  intro fuel rest hfuel
  simp only [List.length_append, List.length_cons] at hfuel
  have hread (c : Char) (hc : c ∈ [',', ']', '}']) (rest : List Symbol) :=
    h fuel (symbols gap ++ some c :: rest) (by omega) ((ends_cons hc rest).blanks hgap)
  constructor
  · simp [hbefore, skipGap_cons (s := some '"') rfl, readString_of_spellsText hkey, hbetween,
      skipGap_cons (s := some ':') rfl, hread, hgap, skipGap_cons (s := some '}') rfl]
  · simp [hbefore, skipGap_cons (s := some '"') rfl, readString_of_spellsText hkey, hbetween,
      skipGap_cons (s := some ':') rfl, hread, hgap, skipGap_cons (s := some ',') rfl]

theorem isRead_of_writes {form : Form} (h : Writes form cs) : IsRead form cs := by
  induction h with
  | null => exact isRead_null
  | true => exact isRead_true
  | false => exact isRead_false
  | number h => exact isRead_number h
  | string h => exact isRead_string h
  | emptyArray hgap => exact isRead_emptyArray hgap
  | array h ih => exact isRead_array ih
  | emptyObject hgap => exact isRead_emptyObject hgap
  | object h ih => exact isRead_object ih
  | blanks hgap h ih => exact isRead_blanks hgap ih
  | lastElement h hgap ih => exact isRead_lastElement ih hgap
  | element h hgap hes ih ihes => exact isRead_element ih hgap ihes
  | member hbefore hkey hbetween h hgap ih => exact isRead_member hbefore hkey hbetween ih hgap
  | lastMember h ih => exact isRead_lastMember ih
  | members h hms ih ihms => exact isRead_members ih ihms

/-- **Every text of a value is read, and as that value.** -/
theorem parse_of_isDocument {v : Json} {text : String} (h : IsDocument v text) :
    parse text = some v := by
  obtain ⟨cs, gap, hwrites, hgap, htext⟩ := h
  have hrest : skipGap (symbols gap ++ []) = skipGap [] := skipGap_blanks hgap
  rw [List.append_nil] at hrest
  have hends : Ends (symbols gap ++ []) := Ends.blanks (fun s hs => by cases hs) hgap
  have hread := isRead_of_writes hwrites (2 * (symbols (cs ++ gap)).length + 1) _
    (by simp [symbols]; omega) hends
  rw [List.append_nil, ← symbols_append] at hread
  rw [parse, htext]
  show parseSymbols (symbols (cs ++ gap)) = some v
  rw [parseSymbols, hread]
  show (if (skipGap (symbols gap)).isEmpty then some v else none) = some v
  rw [hrest]
  rfl

/-- A text is the text of one value. -/
theorem IsDocument.unique {v w : Json} {text : String} (hv : IsDocument v text)
    (hw : IsDocument w text) :
    v = w :=
  Option.some.inj ((parse_of_isDocument hv).symm.trans (parse_of_isDocument hw))

/-- The bytes of a text are read like the text. -/
theorem parseBytes_bytes (s : String) : parseBytes (Text.bytes s) = parse s := by
  rw [parseBytes, parse, Text.Utf8.decode_bytes]

/-- A value is read from the bytes that are written for it. -/
theorem parseBytes_render {v : Json} (h : Writes (.value v) (write v)) :
    parseBytes (Text.bytes v.render) = some v := by
  rw [parseBytes_bytes, parse_of_isDocument (isDocument_render h)]

end Reading

end Json
end Gatehouse
