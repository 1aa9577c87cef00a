import Mathlib.Data.List.DropRight
import Gatehouse.Proofs.Url.Reading

/-!
# Names of servers

The name of a server has to be a domain name or an address, and perhaps a port follows.  None of
them can end with a blank or a control character, however the name is spelled.  At the end of a text
such characters are dropped before it is read; as soon as something is put behind them, they are
not.

* `Host.ofSpecial_concat`, `port?_concat` — neither a host nor a port ends with such a character.
* `withAuthority_concat` — so the authority of a URL of the web does not.
-/

set_option autoImplicit false

namespace Gatehouse
namespace Url

open Percent (byte IsInert)

/-- A list is not mapped if its last element is not. -/
theorem mapM_concat_eq_none {α β : Type} {f : α → Option β} {a : α} (h : f a = none)
    (as : List α) : (as ++ [a]).mapM f = none := by
  rw [List.mapM_append, List.mapM_cons, h]
  cases as.mapM f with
  | none | some bs => rfl

/-! ## Characters at the ends of texts -/

/-- The characters that are dropped at the ends of texts, by their numbers. -/
theorem exists_ofNat_of_isEdge {c : Char} (h : isEdge c = true) : ∃ n < 0x21, c = Char.ofNat n :=
  ⟨c.toNat, Nat.lt_succ_of_le (of_decide_eq_true h), (Char.ofNat_toNat c).symm⟩

/-- What holds of the thirty-three characters that are dropped at the ends of texts. -/
theorem forall_isEdge {P : Char → Prop} (h : ∀ n < 0x21, P (Char.ofNat n)) {c : Char}
    (hc : isEdge c = true) : P c := by
  obtain ⟨n, hn, rfl⟩ := exists_ofNat_of_isEdge hc
  exact h n hn

variable {c : Char}

theorem isInert_of_isEdge (hc : isEdge c = true) : IsInert (byte c) :=
  ⟨forall_isEdge (P := fun c => byte c ≠ byte '%') (by decide) hc,
    forall_isEdge (P := fun c => Percent.hexValue? (byte c) = none) (by decide) hc⟩

theorem utf8EncodeChar_of_isEdge (hc : isEdge c = true) : String.utf8EncodeChar c = [byte c] := by
  have hle : c.toNat ≤ 0x20 := of_decide_eq_true hc
  exact Text.utf8EncodeChar_of_ascii (by omega)

theorem ascii_of_isEdge (hc : isEdge c = true) :
    byte c < 0x80 ∧ Char.ofNat (byte c).toNat = c :=
  forall_isEdge (P := fun c => byte c < 0x80 ∧ Char.ofNat (byte c).toNat = c) (by decide) hc

/-- Neither a digit nor a mark of an authority. -/
theorem ne_of_isEdge (hc : isEdge c = true) :
    c ≠ '@' ∧ c ≠ ':' ∧ c ≠ '[' ∧ c ≠ ']' ∧ c ≠ '-' :=
  forall_isEdge (P := fun c => c ≠ '@' ∧ c ≠ ':' ∧ c ≠ '[' ∧ c ≠ ']' ∧ c ≠ '-') (by decide) hc

/-! ## Punycode -/

namespace Punycode

/-- A distance is not read past a character that is no digit. -/
theorem exists_of_distance?_concat (hc : value? c = none) {cs rest : List Char}
    {bias place weight sum j : Nat}
    (h : distance? bias place weight sum (cs ++ [c]) = some (j, rest)) :
    ∃ front, rest = front ++ [c] := by
  induction cs generalizing place weight sum with
  | nil =>
    rw [List.nil_append, distance?, hc] at h
    cases h
  | cons d cs ih =>
    rw [List.cons_append, distance?] at h
    split at h
    · cases h
    · dsimp only at h
      split at h
      · cases h
        exact ⟨cs, rfl⟩
      · exact ih h

theorem place?_concat (hc : value? c = none) (fuel : Nat) (cs : List Char)
    (bias i n : Nat) (out : List Char) : place? fuel bias i n out (cs ++ [c]) = none := by
  induction fuel generalizing cs bias i n out with
  | zero =>
    cases cs with
    | nil | cons d cs => rfl
  | succ fuel ih =>
    obtain ⟨d, ds, hcs⟩ := List.exists_cons_of_ne_nil (List.append_ne_nil_of_right_ne_nil cs
      (List.cons_ne_nil c []))
    rw [hcs, place?]
    · split
      · rfl
      · next j rest hdistance =>
        rw [← hcs] at hdistance
        obtain ⟨front, rfl⟩ := exists_of_distance?_concat hc hdistance
        dsimp only
        split
        · exact ih _ _ _ _ _
        · rfl
    · exact List.cons_ne_nil d ds

/-- Nothing in Punycode ends with a character that is neither a digit nor a hyphen. -/
theorem decode?_concat (hc : value? c = none) (hhyphen : c ≠ '-') (cs : List Char) :
    decode? (cs ++ [c]) = none := by
  have hcut : ∃ ascii described, cutAtLastHyphen (cs ++ [c]) = (ascii, described ++ [c]) := by
    unfold cutAtLastHyphen
    have htaken : ((c :: cs.reverse).takeWhile (· != '-')).reverse =
        (cs.reverse.takeWhile (· != '-')).reverse ++ [c] := by
      rw [List.takeWhile_cons_of_pos (p := (· != '-')) (bne_iff_ne.2 hhyphen), List.reverse_cons]
    rw [List.reverse_append, List.reverse_singleton, List.singleton_append, htaken]
    split
    · exact ⟨[], cs, rfl⟩
    · exact ⟨_, _, rfl⟩
  obtain ⟨ascii, described, hcut⟩ := hcut
  rw [decode?, hcut]
  exact place?_concat hc _ _ _ _ _ _

end Punycode

/-! ## Domain names -/

namespace Domain

theorem fold_concat (hc : isEdge c = true) (cs : List Char) :
    fold (cs ++ [c]) = fold cs ++ [c] := by
  have hsame : isIgnored c = false ∧
      Text.Case.mapped Text.Case.lowerLong Text.Case.lowerRuns (narrow c) = [c] :=
    forall_isEdge (P := fun c => isIgnored c = false ∧
      Text.Case.mapped Text.Case.lowerLong Text.Case.lowerRuns (narrow c) = [c])
      (by decide +kernel) hc
  have hkept : [c].filter (fun d => !isIgnored d) = [c] :=
    List.filter_eq_self.2 fun d hd => by rw [List.mem_singleton.1 hd, hsame.1]; rfl
  rw [fold, List.filter_append, hkept, List.flatMap_append, List.flatMap_singleton, hsame.2]
  rfl

theorem labelToAscii?_concat (hc : isEdge c = true) (cs : List Char) :
    labelToAscii? (cs ++ [c]) = none := by
  have hallowed : isAllowed c = false :=
    forall_isEdge (P := fun c => isAllowed c = false) (by decide) hc
  have hmark : c ∉ mark := forall_isEdge (P := fun c => c ∉ mark) (by decide) hc
  have hvalue : Punycode.value? c = none :=
    forall_isEdge (P := fun c => Punycode.value? c = none) (by decide) hc
  unfold labelToAscii? afterMark?
  split
  · next digits hdigits =>
    -- the mark is not the whole label, as it does not have the character
    split at hdigits
    · next hprefix =>
      cases hdigits
      obtain ⟨rest, hrest⟩ := List.isPrefixOf_iff_prefix.1 hprefix
      rcases List.eq_nil_or_concat' rest with rfl | ⟨front, d, rfl⟩
      · rw [List.append_nil] at hrest
        exact absurd (hrest ▸ List.mem_concat_self) hmark
      · rw [← List.append_assoc] at hrest
        obtain ⟨-, hd⟩ := List.append_inj' hrest rfl
        cases hd
        rw [← hrest, List.append_assoc, List.drop_left,
          Punycode.decode?_concat hvalue (ne_of_isEdge hc).2.2.2.2]
    · cases hdigits
  · have hlabel : isLabel (cs ++ [c]) = false := by
      rw [isLabel, List.all_append, List.all_cons, hallowed, Bool.false_and, Bool.and_false,
        Bool.false_and]
    rw [hlabel]
    rfl

theorem toAscii?_concat (hc : isEdge c = true) (cs : List Char) : toAscii? (cs ++ [c]) = none := by
  have hpoint : (c == '.') = false :=
    forall_isEdge (P := fun c => (c == '.') = false) (by decide) hc
  have hlast : Text.pieces (· == '.') [c] = [[c]] :=
    Text.pieces_of_free fun d hd => by rw [List.mem_singleton.1 hd]; exact hpoint
  obtain ⟨init, last, -, hpieces⟩ := Text.exists_pieces_append (fold cs) hlast
  rw [toAscii?, fold_concat hc, hpieces, mapM_concat_eq_none (labelToAscii?_concat hc last)]
  rfl

end Domain

/-! ## Hosts and ports -/

theorem exists_of_decode?_concat (hc : isEdge c = true) {bs : List UInt8} {text : String}
    (h : Text.Utf8.decode? (bs ++ [byte c]) = some text) :
    ∃ front, text.toList = front ++ [c] := by
  obtain ⟨hascii, hchar⟩ := ascii_of_isEdge hc
  obtain ⟨cs, hcs, rfl⟩ := Option.map_eq_some_iff.1 h
  rw [Text.Utf8.decode_append_cons hascii, hchar, List.mapM_append] at hcs
  cases hfront : (Text.Utf8.decode bs).mapM id with
  | none =>
    rw [hfront] at hcs
    cases hcs
  | some front =>
    rw [hfront] at hcs
    refine ⟨front, ?_⟩
    rw [String.toList_ofList]
    exact (Option.some.inj hcs).symm

/-- **No host ends with a blank or a control character.** -/
theorem Host.ofSpecial_concat (hc : isEdge c = true) (cs : List Char) :
    ∃ error, Host.ofSpecial (cs ++ [c]) = .error error := by
  have hbracket := ne_of_isEdge hc
  unfold Host.ofSpecial
  split
  · next rest hrest =>
    -- behind an opening bracket the last character is not the closing one
    refine ⟨.v6, ?_⟩
    rcases List.eq_nil_or_concat' rest with rfl | ⟨front, d, rfl⟩
    · rfl
    · rw [← List.cons_append] at hrest
      obtain ⟨-, hd⟩ := List.append_inj' hrest rfl
      cases hd
      unfold bracketed
      rw [List.getLast?_concat]
      split
      · next heq => exact absurd (Option.some.inj heq) hbracket.2.2.2.1
      · rfl
  · have hnone : (Text.Utf8.decode? (Percent.decode (Text.bytes (String.ofList (cs ++ [c]))))).bind
        (fun s => Domain.toAscii? s.toList) = none := by
      rw [Option.bind_eq_none_iff]
      intro text htext
      rw [Text.bytes_ofList, List.flatMap_append, List.flatMap_singleton,
        utf8EncodeChar_of_isEdge hc, Percent.decode_append_cons (isInert_of_isEdge hc)] at htext
      obtain ⟨front, hfront⟩ := exists_of_decode?_concat hc htext
      rw [hfront]
      exact Domain.toAscii?_concat hc front
    rw [hnone]
    exact ⟨.domain, rfl⟩

theorem port?_concat (hc : isEdge c = true) (scheme : String) (digits : List Char) :
    port? scheme (digits ++ [c]) = .error .port := by
  have hdigit : Net.Ipv4.digit? 10 c = none :=
    forall_isEdge (P := fun c => Net.Ipv4.digit? 10 c = none) (by decide) hc
  rw [port?, Net.Ipv4.number?, mapM_concat_eq_none hdigit]
  rfl

/-! ## Authorities -/

theorem cutAtLast?_concat {sep : Char} (hc : c ≠ sep) (cs : List Char) :
    cutAtLast? sep (cs ++ [c]) =
      (cutAtLast? sep cs).map fun parts => (parts.1, parts.2 ++ [c]) := by
  induction cs with
  | nil => rw [List.nil_append, cutAtLast?, cutAtLast?, if_neg hc]; rfl
  | cons d cs ih =>
    rw [List.cons_append, cutAtLast?, ih, cutAtLast?]
    cases cutAtLast? sep cs with
    | some parts => rfl
    | none =>
      by_cases hd : d = sep
      · simp only [Option.map_none, if_pos hd, Option.map_some]
      · simp only [Option.map_none, if_neg hd]

theorem serverOf_concat (hc : isEdge c = true) (cs : List Char) :
    serverOf (cs ++ [c]) = serverOf cs ++ [c] := by
  rw [serverOf, serverOf, cutAtLast?_concat (ne_of_isEdge hc).1]
  cases cutAtLast? '@' cs with
  | none | some parts => rfl

/-- A character at the end is part of the port if there is one, and else of the host. -/
theorem splitHost_concat (hc : isEdge c = true) (inside : Bool) (cs : List Char) :
    splitHost inside (cs ++ [c]) =
      if (splitHost inside cs).2.isEmpty then ((splitHost inside cs).1 ++ [c], [])
      else ((splitHost inside cs).1, (splitHost inside cs).2 ++ [c]) := by
  have hne := ne_of_isEdge hc
  induction cs generalizing inside with
  | nil =>
    have hcolon : ¬ (c = ':' && !inside) = true := by simp [hne.2.1]
    have hone : splitHost inside [c] = ([c], []) := by
      rw [splitHost, if_neg hcolon]
      rfl
    exact hone
  | cons d cs ih =>
    rw [List.cons_append, splitHost, splitHost]
    split
    · rfl
    · generalize (if d = '[' then true else if d = ']' then false else inside) = inner
      rw [ih]
      dsimp only
      split
      · rfl
      · rfl

/-- What an authority is that is read in a URL of the web. -/
theorem exists_of_withAuthority {url read : Url} {cs : List Char} {followed : Bool}
    (hspecial : isSpecial url.scheme = true) (h : url.withAuthority cs followed = .ok read) :
    ∃ host port, (splitHost false (serverOf cs)).1 ≠ [] ∧
      Host.ofSpecial (splitHost false (serverOf cs)).1 = .ok host ∧
      port? url.scheme (splitHost false (serverOf cs)).2.tail = .ok port ∧
      read = { url.named cs with host := some host, port } := by
  rw [withAuthority_eq, hspecial] at h
  split at h
  · cases h
  · obtain ⟨host, hhost, h⟩ := exists_of_bind_eq_ok h
    simp only [hostOf, if_true] at hhost
    split at hhost
    · cases hhost
    · next hne =>
      cases hread : Host.ofSpecial (splitHost false (serverOf cs)).1 with
      | error error =>
        rw [hread] at hhost
        cases hhost
      | ok name =>
        rw [hread] at hhost
        cases hhost
        obtain ⟨port, hport, h⟩ := exists_of_bind_eq_ok h
        cases h
        exact ⟨name, port, fun hnil => hne (List.isEmpty_iff.2 hnil), rfl, hport, rfl⟩

/-- Such an authority is read, whatever follows it. -/
theorem withAuthority_of_exists {url : Url} {cs : List Char} {host : Host} {port : Option Nat}
    (hspecial : isSpecial url.scheme = true) (hne : (splitHost false (serverOf cs)).1 ≠ [])
    (hhost : Host.ofSpecial (splitHost false (serverOf cs)).1 = .ok host)
    (hport : port? url.scheme (splitHost false (serverOf cs)).2.tail = .ok port)
    (followed : Bool) :
    url.withAuthority cs followed = .ok { url.named cs with host := some host, port } := by
  have hserver : (serverOf cs).isEmpty = false := by
    refine List.isEmpty_eq_false_iff.2 fun hnil => hne ?_
    rw [hnil]
    rfl
  have hempty : (splitHost false (serverOf cs)).1.isEmpty = false :=
    List.isEmpty_eq_false_iff.2 hne
  have hread : hostOf true (splitHost false (serverOf cs)).1 = .ok (some host) := by
    rw [hostOf, if_pos rfl, hempty, hhost]
    rfl
  rw [withAuthority_eq, hspecial, hread, hserver, Bool.and_false, Bool.false_and,
    if_neg Bool.false_ne_true, hport]
  rfl

/-- **The authority of a URL of the web does not end with a blank or a control character.** -/
theorem withAuthority_concat (hc : isEdge c = true) {url : Url}
    (hspecial : isSpecial url.scheme = true) (cs : List Char) (followed : Bool) (read : Url) :
    url.withAuthority (cs ++ [c]) followed ≠ .ok read := by
  intro h
  obtain ⟨host, port, -, hhost, hport, -⟩ := exists_of_withAuthority hspecial h
  rw [serverOf_concat hc, splitHost_concat hc] at hhost hport
  cases hempty : (splitHost false (serverOf cs)).2 with
  | nil =>
    obtain ⟨error, herror⟩ := Host.ofSpecial_concat hc (splitHost false (serverOf cs)).1
    rw [hempty, List.isEmpty_nil, if_pos rfl, herror] at hhost
    cases hhost
  | cons d digits =>
    rw [hempty, List.isEmpty_cons, if_neg Bool.false_ne_true, List.cons_append, List.tail_cons,
      port?_concat hc] at hport
    cases hport

end Url
end Gatehouse
