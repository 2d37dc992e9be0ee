import Exosip.Parser.Serialise

/-! The scan of a multipart body over delimited texts: each search finds the first separator
behind it, unless more NULs stand before it than the search has rounds. -/
namespace Exosip

open CString

namespace Multipart

/-! ### The first occurrence -/

/-- The first place in `s` where `str` begins. -/
def FirstAt (str s : Str) (i : Nat) : Prop := str <+: s.drop i ∧ ∀ j < i, ¬ str <+: s.drop j

theorem firstAt_unique {str s : Str} {i j : Nat} (hi : FirstAt str s i) (hj : FirstAt str s j) :
    i = j := by
  cases Nat.lt_trichotomy i j with
  | inl hlt => exact absurd hi.1 (hj.2 i hlt)
  | inr hge =>
      cases hge with
      | inl heq => exact heq
      | inr hgt => exact absurd hj.1 (hi.2 j hgt)

theorem exists_firstAt {str s : Str} {i : Nat} (h : str <+: s.drop i) :
    ∃ j ≤ i, FirstAt str s j := by
  have hex : ∃ i, str.isPrefixOf (s.drop i) = true := ⟨i, List.isPrefixOf_iff_prefix.2 h⟩
  refine ⟨Nat.find hex, Nat.find_min' hex (List.isPrefixOf_iff_prefix.2 h), ?_, ?_⟩
  · exact List.isPrefixOf_iff_prefix.1 (Nat.find_spec hex)
  · intro j hj hpre
    exact Nat.find_min hex hj (List.isPrefixOf_iff_prefix.2 hpre)

theorem firstAt_drop {str s : Str} {i k : Nat} (h : FirstAt str s i) (hk : k ≤ i) :
    FirstAt str (s.drop k) (i - k) := by
  constructor
  · rw [List.drop_drop, Nat.add_sub_cancel' hk]
    exact h.1
  · intro j hj hpre
    rw [List.drop_drop] at hpre
    exact h.2 (k + j) (by omega) hpre

theorem firstAt_lt_length {str s : Str} {i : Nat} (hne : str ≠ []) (h : FirstAt str s i) :
    i < s.length := by
  have hlen := isPrefix_length h.1 hne
  have hpos := List.length_pos_iff.2 hne
  omega

/-! ### The search -/

variable {str buf : Str}

theorem strstr_eq_some_iff (hne : str ≠ []) {s : Str} {i : Nat} :
    strstr str s = some i ↔ FirstAt str s i ∧ '\x00' ∉ s.take i := by
  induction s generalizing i with
  | nil =>
      rw [strstr, if_neg hne]
      constructor
      · intro h
        cases h
      · intro h
        exact absurd (firstAt_lt_length hne h.1) (Nat.not_lt_zero i)
  | cons c s ih =>
      rw [strstr]
      by_cases hpre : str.isPrefixOf (c :: s) = true
      · rw [if_pos hpre]
        have hzero : FirstAt str (c :: s) 0 :=
          ⟨List.isPrefixOf_iff_prefix.1 hpre, fun j hj => absurd hj (Nat.not_lt_zero j)⟩
        constructor
        · intro h
          cases h
          exact ⟨hzero, List.not_mem_nil⟩
        · intro h
          rw [firstAt_unique hzero h.1]
      · rw [if_neg hpre]
        have hpos {i : Nat} (h : FirstAt str (c :: s) i) : ∃ k, i = k + 1 := by
          apply Nat.exists_eq_add_one_of_ne_zero
          intro hi
          rw [hi] at h
          exact hpre (List.isPrefixOf_iff_prefix.2 h.1)
        by_cases hc : c = '\x00'
        · rw [if_pos hc]
          constructor
          · intro h
            cases h
          · intro h
            obtain ⟨k, rfl⟩ := hpos h.1
            exact absurd (by simp [hc]) h.2
        · rw [if_neg hc, Option.map_eq_some_iff]
          constructor
          · intro h
            obtain ⟨k, hk, rfl⟩ := h
            obtain ⟨hfirst, htake⟩ := ih.1 hk
            refine ⟨⟨hfirst.1, ?_⟩, ?_⟩
            · intro j hj hj'
              cases j with
              | zero => exact hpre (List.isPrefixOf_iff_prefix.2 hj')
              | succ j => exact hfirst.2 j (by omega) hj'
            · rw [List.take_succ_cons, List.mem_cons, not_or]
              exact ⟨fun h => hc h.symm, htake⟩
          · intro h
            obtain ⟨k, rfl⟩ := hpos h.1
            refine ⟨k, ih.2 ⟨firstAt_drop h.1 (Nat.le_add_left 1 k), ?_⟩, rfl⟩
            intro hmem
            exact h.2 (by rw [List.take_succ_cons]; exact List.mem_cons_of_mem c hmem)

theorem exists_eq_cString_append {s : Str} (h : '\x00' ∈ s) :
    ∃ before rest, s = before ++ '\x00' :: rest ∧ cString s = before := by
  have hsplit := List.takeWhile_append_dropWhile (p := (· != '\x00')) (l := s)
  cases hrest : s.dropWhile (· != '\x00') with
  | nil =>
      rw [hrest, List.append_nil] at hsplit
      rw [← hsplit] at h
      exact absurd h (cString_nul s)
  | cons c rest =>
      have hc := List.head?_dropWhile_not (· != '\x00') s
      rw [hrest] at hc
      simp only [List.head?_cons, bne_eq_false_iff_eq] at hc
      refine ⟨cString s, rest, ?_, rfl⟩
      rw [hrest, hc] at hsplit
      exact hsplit.symm

/-- The search finds the first occurrence when a round is left for every NUL before it, and
gives up otherwise. -/
theorem findNextOccurence_firstAt (hne : str ≠ []) {n pos i : Nat}
    (h : FirstAt str (buf.drop pos) i) :
    findNextOccurence str buf n pos =
      if ((buf.drop pos).take i).count '\x00' < n then some (pos + i) else none := by
  induction n generalizing pos i with
  | zero => rw [findNextOccurence, if_neg (Nat.not_lt_zero _)]
  | succ n ih =>
      have hlt := firstAt_lt_length hne h
      rw [findNextOccurence]
      by_cases hmem : '\x00' ∈ (buf.drop pos).take i
      · have hnone : strstr str (buf.drop pos) = none := by
          rw [Option.eq_none_iff_forall_ne_some]
          intro j hj
          obtain ⟨hfirst, htake⟩ := (strstr_eq_some_iff hne).1 hj
          rw [firstAt_unique hfirst h] at htake
          exact htake hmem
        -- the search goes on behind the first NUL, which stands before the occurrence
        obtain ⟨before, rest, hsplit, hbefore⟩ :=
          exists_eq_cString_append (List.mem_of_mem_take hmem)
        have hclean : '\x00' ∉ before := by
          rw [← hbefore]
          exact cString_nul _
        have hk : before.length + 1 ≤ i := by
          rw [Nat.add_one_le_iff]
          by_contra hle
          rw [hsplit, List.take_append_of_le_length (not_lt.1 hle)] at hmem
          exact hclean (List.mem_of_mem_take hmem)
        have hend : endOfString buf pos = pos + before.length := by rw [endOfString, hbefore]
        have hin : endOfString buf pos < buf.length := by
          rw [List.length_drop] at hlt
          omega
        have hdrop : (buf.drop pos).drop (before.length + 1) = rest := by
          rw [hsplit, List.drop_append]
          simp
        have hnext := firstAt_drop h hk
        have hcount : ((buf.drop pos).take i).count '\x00' =
            (((buf.drop pos).drop (before.length + 1)).take (i - (before.length + 1))).count '\x00' +
              1 := by
          rw [hdrop, hsplit, List.take_append, List.take_of_length_le (Nat.le_of_succ_le hk), List.count_append,
            List.count_eq_zero.2 hclean, Nat.zero_add]
          obtain ⟨k, hi⟩ := Nat.exists_eq_add_of_le hk
          have hsub : i - before.length = k + 1 := by omega
          have hsub' : i - (before.length + 1) = k := by omega
          rw [hsub, hsub', List.take_succ_cons, List.count_cons_self]
        rw [List.drop_drop, ← Nat.add_assoc] at hnext hcount
        rw [hnone]
        dsimp only
        rw [if_pos hin, hend, ih hnext, hcount]
        by_cases hleft : ((buf.drop (pos + before.length + 1)).take
            (i - (before.length + 1))).count '\x00' < n
        · rw [if_pos hleft, if_pos (Nat.succ_lt_succ hleft), Option.some.injEq]
          omega
        · rw [if_neg hleft, if_neg (fun h => hleft (Nat.lt_of_succ_lt_succ h))]
      · have hsome := (strstr_eq_some_iff hne).2 ⟨h, hmem⟩
        rw [hsome, List.count_eq_zero.2 hmem, if_pos (Nat.succ_pos n)]

/-! ### Delimited texts -/

/-- A separator as the parser looks for it: a LF and a text without line breaks and NULs. -/
structure Separator (sep : Str) : Prop where
  head : sep.head? = some '\n'
  cr : '\r' ∉ sep
  nul : '\x00' ∉ sep

theorem Separator.ne_nil {sep : Str} (h : Separator sep) : sep ≠ [] := by
  intro hnil
  have hhead := h.head
  rw [hnil] at hhead
  cases hhead

theorem Separator.head_of_prefix {sep s : Str} (h : Separator sep) (hpre : sep <+: s) :
    s.head? = some '\n' := by
  obtain ⟨t, rfl⟩ := hpre
  rw [List.head?_append, h.head, Option.some_or]

def delimited (sep : Str) : List Str → Str
  | [] => sep ++ "--\r\n".toList
  | text :: texts => sep ++ crlf ++ text ++ '\r' :: delimited sep texts

/-- The separator does not begin in the text, nor in the LF before it, and the search has a
round for each NUL. -/
structure Quiet (sep text : Str) : Prop where
  apart : ¬ sep <:+: '\n' :: text
  nuls : text.count '\x00' < rounds

theorem isPrefix_delimited (sep : Str) (texts : List Str) : sep <+: delimited sep texts := by
  cases texts with
  | nil => exact List.prefix_append _ _
  | cons text texts =>
      rw [delimited, List.append_assoc, List.append_assoc]
      exact List.prefix_append _ _

section OneText

variable {sep text rest : Str}

/-- What follows a separator: the line break, the text and the next separator. -/
def behind (text rest : Str) : Str := crlf ++ text ++ '\r' :: rest

theorem prefix_of_prefix_append {str u v : Str} {c : Char} (hc : c ∉ str)
    (h : str <+: u ++ c :: v) : str <+: u := by
  induction str generalizing u with
  | nil => exact List.nil_prefix
  | cons d str ih =>
      rw [List.mem_cons, not_or] at hc
      cases u with
      | nil =>
          rw [List.nil_append, List.cons_prefix_cons] at h
          exact absurd h.1.symm hc.1
      | cons e u =>
          rw [List.cons_append, List.cons_prefix_cons] at h
          rw [List.cons_prefix_cons]
          exact ⟨h.1, ih hc.2 h.2⟩

theorem behind_drop (text : Str) (hrest : sep <+: rest) :
    sep <+: (behind text rest).drop (text.length + 3) := by
  have hdrop : (behind text rest).drop (text.length + 3) = rest := by
    rw [behind, List.append_assoc, List.drop_append]
    simp [crlf]
  rw [hdrop]
  exact hrest

theorem firstAt_behind_iff (hsep : Separator sep) (hrest : sep <+: rest) :
    FirstAt sep (behind text rest) (text.length + 3) ↔ ¬ sep <:+: '\n' :: text := by
  have hshift (j : Nat) :
      (behind text rest).drop (j + 1) = ('\n' :: text ++ '\r' :: rest).drop j := rfl
  constructor
  · intro h hin
    obtain ⟨u, v, huv⟩ := hin
    apply h.2 (u.length + 1)
    · have hlen := congrArg List.length huv
      have hpos := List.length_pos_iff.2 hsep.ne_nil
      simp only [List.length_append, List.length_cons] at hlen
      omega
    · rw [hshift, ← huv, List.append_assoc, List.append_assoc, List.drop_left]
      exact List.prefix_append _ _
  · intro h
    refine ⟨behind_drop text hrest, ?_⟩
    intro j hj hpre
    cases j with
    | zero =>
        cases hsep.head_of_prefix hpre
    | succ j =>
        rw [hshift, List.drop_append_of_le_length (by rw [List.length_cons]; omega)] at hpre
        have hin := prefix_of_prefix_append hsep.cr hpre
        exact h (hin.isInfix.trans (List.drop_suffix j _).isInfix)

theorem behind_count : ((behind text rest).take (text.length + 3)).count '\x00' =
    text.count '\x00' := by
  have htake : (behind text rest).take (text.length + 3) = crlf ++ text ++ ['\r'] := by
    rw [behind, List.take_append]
    simp [crlf, List.take_of_length_le]
  rw [htake, List.count_append, List.count_append]
  simp [crlf]

end OneText

section Step

variable {sep text rest pre : Str}

/-- The buffer with a separator behind `pre`. -/
def around (sep pre text rest : Str) : Str := pre ++ sep ++ behind text rest

theorem around_drop (sep pre : Str) :
    (around sep pre text rest).drop (pre.length + sep.length) = behind text rest := by
  rw [around, ← List.length_append, List.drop_left]

theorem around_getElem? (i : Nat) : (around sep pre text rest)[pre.length + sep.length + i]? =
    (behind text rest)[i]? := by
  rw [← around_drop sep pre, List.getElem?_drop]

theorem startOfBody_around :
    startOfBody sep (around sep pre text rest) pre.length = pre.length + sep.length + 2 := by
  rw [startOfBody, around_getElem?]
  rfl

theorem bodyLen_around : bodyLen sep (around sep pre text rest) pre.length
    (pre.length + sep.length + (text.length + 3)) = text.length := by
  have hcr : (around sep pre text rest)[pre.length + sep.length + (text.length + 3) - 1]? =
      some '\r' := by
    have hsub : pre.length + sep.length + (text.length + 3) - 1 =
        pre.length + sep.length + (text.length + 2) := by omega
    rw [hsub, around_getElem?, behind, List.append_assoc]
    simp [crlf]
  rw [bodyLen, startOfBody_around, hcr, if_pos rfl]
  push_cast
  omega

theorem body_around (n : Nat) (h : n ≤ text.length) :
    ((around sep pre text rest).drop (pre.length + sep.length + 2)).take n = text.take n := by
  rw [← List.drop_drop, around_drop, behind, List.append_assoc]
  exact List.take_append_of_le_length h

theorem bodyLen_lt (pre : Str) (hsep : Separator sep) {j : Nat}
    (hpre : sep <+: (behind text rest).drop j) (hj : j < text.length + 3) :
    bodyLen sep (around sep pre text rest) pre.length (pre.length + sep.length + j) <
      text.length := by
  have hne : j ≠ text.length + 2 := by
    intro heq
    have hhead := hsep.head_of_prefix hpre
    rw [heq, List.head?_drop, behind, List.append_assoc] at hhead
    simp [crlf] at hhead
  rw [bodyLen, startOfBody_around]
  push_cast
  split
  · omega
  · omega

theorem closing_around (e : Nat) (texts : List Str)
    (h : (around sep pre text (delimited sep texts)).drop e = delimited sep texts) :
    closing sep (around sep pre text (delimited sep texts)) e = texts.isEmpty := by
  rw [closing, ← List.drop_drop, h]
  cases texts with
  | nil => rw [delimited, List.drop_left]; rfl
  | cons text texts =>
      rw [delimited, List.append_assoc, List.append_assoc, List.drop_left]
      rfl

end Step

/-- What the loop returns for the part between two separators; `rest` is what it returns
from the second one on. -/
def partResult (sep buf : Str) (s e : Nat) (rest : Result (List Body)) : Result (List Body) :=
  if bodyLen sep buf s e < 0 then .error .fault
  else
    match Body.parseMime
        ((buf.drop (startOfBody sep buf s)).take (bodyLen sep buf s e).toNat) with
    | .error i => .error (.code i)
    | .ok body => if closing sep buf e then .ok [body] else rest.map (body :: ·)

theorem parts_found {sep buf : Str} {fuel start s : Nat}
    (hs : findNextOccurence sep buf rounds start = some s) :
    (parts sep buf (fuel + 1) start).2 =
      match findNextOccurence sep buf rounds (s + sep.length) with
      | none => .error (.code osipSyntaxerror)
      | some e => partResult sep buf s e (parts sep buf fuel e).2 := by
  rw [parts, hs]
  dsimp only
  cases findNextOccurence sep buf rounds (s + sep.length) with
  | none => rfl
  | some e =>
      dsimp only
      unfold partResult
      by_cases hlen : bodyLen sep buf s e < 0
      · rw [if_pos hlen, if_pos hlen]
      · rw [if_neg hlen, if_neg hlen]
        cases Body.parseMime
            ((buf.drop (startOfBody sep buf s)).take (bodyLen sep buf s e).toNat) with
        | error i => rfl
        | ok body =>
            dsimp only
            cases closing sep buf e with
            | true => rfl
            | false => rfl

/-- The text of a part, of which nothing that is cut off is read as the part. -/
structure Item where
  text : Str
  body : Body
  strict : ∀ n < text.length, Body.parseMime (text.take n) ≠ .ok body

section Item

variable {sep pre : Str} {item : Item} {texts : List Str} {bodies : List Body}
  {rest : Result (List Body)}

theorem except_map_cons_eq_ok {body : Body} :
    rest.map (body :: ·) = .ok (item.body :: bodies) ↔ body = item.body ∧ rest = .ok bodies := by
  cases rest with
  | error i => simp [Except.map]
  | ok bodies' => simp [Except.map]

theorem partResult_text : partResult sep (around sep pre item.text (delimited sep texts)) pre.length
    (pre.length + sep.length + (item.text.length + 3)) rest = .ok (item.body :: bodies) ↔
      Body.parseMime item.text = .ok item.body ∧
        if texts = [] then bodies = [] else rest = .ok bodies := by
  have hdrop : (around sep pre item.text (delimited sep texts)).drop
      (pre.length + sep.length + (item.text.length + 3)) = delimited sep texts := by
    rw [← List.drop_drop, around_drop, behind, List.append_assoc, List.drop_append]
    simp [crlf]
  rw [partResult, bodyLen_around, startOfBody_around, if_neg (by omega), Int.toNat_natCast,
    body_around _ le_rfl, List.take_length, closing_around _ _ hdrop]
  cases Body.parseMime item.text with
  | error i => simp
  | ok body =>
      cases texts with
      | nil => simp [eq_comm]
      | cons text texts => simpa using except_map_cons_eq_ok

theorem partResult_early (hsep : Separator sep) {j : Nat}
    (hpre : sep <+: (behind item.text (delimited sep texts)).drop j)
    (hj : j < item.text.length + 3) :
    partResult sep (around sep pre item.text (delimited sep texts)) pre.length
      (pre.length + sep.length + j) rest ≠ .ok (item.body :: bodies) := by
  have hlt := bodyLen_lt pre hsep hpre hj
  rw [partResult]
  split
  · intro h
    cases h
  · next hlen =>
      have hn : (bodyLen sep (around sep pre item.text (delimited sep texts)) pre.length
          (pre.length + sep.length + j)).toNat < item.text.length := by omega
      rw [startOfBody_around, body_around _ hn.le]
      have hother := item.strict _ hn
      cases hbody : Body.parseMime (item.text.take
          (bodyLen sep (around sep pre item.text (delimited sep texts)) pre.length
            (pre.length + sep.length + j)).toNat) with
      | error i =>
          intro h
          cases h
      | ok body =>
          dsimp only
          rw [hbody] at hother
          split
          · intro h
            cases h
            exact hother rfl
          · intro h
            exact hother (by rw [(except_map_cons_eq_ok.1 h).1])

theorem findNextOccurence_behind (pre : Str) (item : Item) (texts : List Str)
    (hsep : Separator sep) :
    ∃ j ≤ item.text.length + 3, FirstAt sep (behind item.text (delimited sep texts)) j ∧
      findNextOccurence sep (around sep pre item.text (delimited sep texts)) rounds
          (pre.length + sep.length) =
        if ((behind item.text (delimited sep texts)).take j).count '\x00' < rounds then
          some (pre.length + sep.length + j)
        else none := by
  obtain ⟨j, hj, hfirst⟩ :=
    exists_firstAt (behind_drop item.text (isPrefix_delimited sep texts))
  have hfind : FirstAt sep ((around sep pre item.text (delimited sep texts)).drop
      (pre.length + sep.length)) j := by
    rw [around_drop]
    exact hfirst
  refine ⟨j, hj, hfirst, ?_⟩
  rw [findNextOccurence_firstAt hsep.ne_nil hfind, around_drop]

theorem findNextOccurence_of_quiet (hsep : Separator sep) (h : Quiet sep item.text) :
    findNextOccurence sep (around sep pre item.text (delimited sep texts)) rounds
        (pre.length + sep.length) =
      some (pre.length + sep.length + (item.text.length + 3)) := by
  obtain ⟨j, -, hfirst, hfind⟩ :=
    findNextOccurence_behind pre item texts hsep
  have hend := (firstAt_behind_iff hsep (isPrefix_delimited sep texts)).2 h.apart
  rw [firstAt_unique hfirst hend, behind_count, if_pos h.nuls] at hfind
  exact hfind

theorem quiet_of_found (hsep : Separator sep) {e : Nat}
    (hfind : findNextOccurence sep (around sep pre item.text (delimited sep texts)) rounds
      (pre.length + sep.length) = some e)
    (hresult : partResult sep (around sep pre item.text (delimited sep texts)) pre.length e rest =
      .ok (item.body :: bodies)) :
    Quiet sep item.text ∧ e = pre.length + sep.length + (item.text.length + 3) := by
  obtain ⟨j, hj, hfirst, hsearch⟩ :=
    findNextOccurence_behind pre item texts hsep
  rw [hfind] at hsearch
  split at hsearch
  · next hcount =>
      cases hsearch
      cases Nat.lt_or_eq_of_le hj with
      | inl hlt => exact absurd hresult (partResult_early hsep hfirst.1 hlt)
      | inr heq =>
          rw [heq] at hfirst hcount ⊢
          rw [behind_count] at hcount
          exact ⟨⟨(firstAt_behind_iff hsep (isPrefix_delimited sep texts)).1 hfirst, hcount⟩, rfl⟩
  · cases hsearch

end Item

theorem parts_delimited_iff {sep : Str} (hsep : Separator sep) {items : List Item}
    (hne : items ≠ []) {pre : Str} {fuel start : Nat} (hfuel : items.length ≤ fuel)
    (hfind : findNextOccurence sep (pre ++ delimited sep (items.map Item.text)) rounds start =
      some pre.length) :
    (parts sep (pre ++ delimited sep (items.map Item.text)) fuel start).2 =
        .ok (items.map Item.body) ↔
      ∀ item ∈ items, Quiet sep item.text ∧ Body.parseMime item.text = .ok item.body := by
  induction items generalizing pre fuel start with
  | nil => exact absurd rfl hne
  | cons item items ih =>
      obtain ⟨fuel, rfl⟩ := Nat.exists_eq_add_one_of_ne_zero (n := fuel) (by
        rw [List.length_cons] at hfuel
        omega)
      have hbuf : pre ++ delimited sep ((item :: items).map Item.text) =
          around sep pre item.text (delimited sep (items.map Item.text)) := by
        rw [List.map_cons, delimited, around, behind]
        simp
      rw [hbuf] at hfind ⊢
      have hnext : (if items.map Item.text = [] then items.map Item.body = []
            else (parts sep (around sep pre item.text (delimited sep (items.map Item.text))) fuel
              (pre.length + sep.length + (item.text.length + 3))).2 =
                .ok (items.map Item.body)) ↔
          ∀ item ∈ items, Quiet sep item.text ∧ Body.parseMime item.text = .ok item.body := by
        cases hitems : items with
        | nil => simp
        | cons next items' =>
            rw [← hitems]
            have hne : items ≠ [] := by simp [hitems]
            have hpre : around sep pre item.text (delimited sep (items.map Item.text)) =
                (pre ++ sep ++ crlf ++ item.text ++ ['\r']) ++
                  delimited sep (items.map Item.text) := by
              simp [around, behind]
            have hlen : (pre ++ sep ++ crlf ++ item.text ++ ['\r']).length =
                pre.length + sep.length + (item.text.length + 3) := by
              simp only [List.length_append, List.length_cons, List.length_nil, crlf]
              omega
            rw [if_neg (by simpa using hne), hpre, ← hlen]
            apply ih hne
            · rw [List.length_cons] at hfuel
              omega
            · apply findNextOccurence_self
              rw [List.drop_left]
              exact isPrefix_delimited sep _
      rw [parts_found hfind, List.forall_mem_cons]
      constructor
      · intro h
        cases hsecond : findNextOccurence sep (around sep pre item.text
            (delimited sep (items.map Item.text))) rounds (pre.length + sep.length) with
        | none =>
            rw [hsecond] at h
            cases h
        | some e =>
            rw [hsecond] at h
            obtain ⟨hquiet, rfl⟩ := quiet_of_found hsep hsecond h
            obtain ⟨hparse, hrest⟩ := partResult_text.1 h
            exact ⟨⟨hquiet, hparse⟩, hnext.1 hrest⟩
      · intro h
        rw [findNextOccurence_of_quiet hsep h.1.1]
        exact partResult_text.2 ⟨h.1.2, hnext.2 h.2⟩

end Multipart
end Exosip
