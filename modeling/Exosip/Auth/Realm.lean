import Exosip.Parser.Part

/-! `eXosip_find_authentication_info`: which of the configured credentials answer the
challenge of a realm. -/
namespace Exosip

open CString

/-- `jauthinfo_t`, with the arguments of `eXosip_add_authentication_info`: the fields keep the
first 49 characters of each. A realm that is NULL is stored as the empty string. -/
structure AuthInfo where
  username : Str
  userid : Str
  passwd : Str
  ha1 : Str
  realm : Str
  deriving DecidableEq, Repr

namespace AuthInfo

/-- `snprintf (field, 50, "%s", s)`. -/
def field (s : Str) : Str := s.take 49

/-- The test of an entry that has a realm. A realm without characters is read behind its end;
for one character the length, of type `size_t`, is larger than any string. -/
def realmTest (realm : Option Str) (authRealm : Str) : Result Bool :=
  match realm with
  | none => .ok true
  | some realm =>
      if osipStrcasecmp realm authRealm then .ok true
      else
        match realm with
        | [] => .error .fault
        | [_] => .ok (osipStrcasecmp [] authRealm)
        | _ :: rest => .ok (osipStrncasecmp rest authRealm (rest.length - 1))

/-- The first loop, over the entries of that user; with the entry found the latest one without
a realm. -/
def findByUsername (username : Str) (realm : Option Str) :
    List AuthInfo → Option AuthInfo → Result (Option AuthInfo × Option AuthInfo)
  | [], fallback => .ok (none, fallback)
  | authinfo :: authinfos, fallback =>
      if osipStrcasecmp (field authinfo.username) username then
        if field authinfo.realm = [] then findByUsername username realm authinfos (some authinfo)
        else do
          if ← realmTest realm (field authinfo.realm) then .ok (some authinfo, fallback)
          else findByUsername username realm authinfos fallback
      else findByUsername username realm authinfos fallback

/-- The second loop, over the entries of all users. -/
def findByRealm (realm : Option Str) : List AuthInfo → Option AuthInfo → Result (Option AuthInfo)
  | [], fallback => .ok fallback
  | authinfo :: authinfos, fallback =>
      if field authinfo.realm = [] ∧ fallback = none then findByRealm realm authinfos (some authinfo)
      else do
        if ← realmTest realm (field authinfo.realm) then .ok (some authinfo)
        else findByRealm realm authinfos fallback

/-- `eXosip_find_authentication_info`. -/
def findAuthenticationInfo (authinfos : List AuthInfo) (username : Str) (realm : Option Str) :
    Result (Option AuthInfo) := do
  let found ← findByUsername username realm authinfos none
  match found.1 with
  | some authinfo => .ok (some authinfo)
  | none => findByRealm realm authinfos found.2

/-! ### What the search should give -/

/-- Equal but for the case, the quotes around them left aside. -/
def SameRealm (realm1 realm2 : Str) : Prop :=
  osipStrcasecmp (Multipart.unquoted realm1) (Multipart.unquoted realm2) = true

def ForRealm (realm : Option Str) (authinfo : AuthInfo) : Prop :=
  authinfo.realm = [] ∨ ∃ r, realm = some r ∧ SameRealm r authinfo.realm

/-- The search ends, and what it gives is for the realm. -/
def WellDirected (authinfos : List AuthInfo) (username : Str) (realm : Option Str) : Prop :=
  ∃ found, findAuthenticationInfo authinfos username realm = .ok found ∧
    ∀ authinfo ∈ found, ForRealm realm authinfo

/-- `r` without its first and its last character is a prefix, whatever the case. -/
def InnerPrefix (r authRealm : Str) : Prop :=
  2 ≤ r.length ∧ r.tail.dropLast.map tolower <+: authRealm.map tolower

/-- The realm of the entry passes for `realm` though it is another one: there is no realm to
compare with, or only the inner part was compared, or only the part that was stored. -/
def Confused (realm : Option Str) (authinfo : AuthInfo) : Prop :=
  authinfo.realm ≠ [] ∧
    match realm with
    | none => True
    | some r =>
        r = [] ∨
          (osipStrcasecmp r (field authinfo.realm) = true ∨ InnerPrefix r (field authinfo.realm)) ∧
            ¬ SameRealm r authinfo.realm

theorem field_eq_nil {s : Str} : field s = [] ↔ s = [] := by simp [field]

theorem strncasecmp_eq_true_iff {s t : Str} {n : Nat} (hn : n ≤ s.length) :
    osipStrncasecmp s t n = true ↔ (s.take n).map tolower <+: t.map tolower := by
  unfold osipStrncasecmp osipStrcasecmp
  rw [beq_iff_eq, List.prefix_iff_eq_take, List.length_map, List.length_take_of_le hn,
    List.map_take (l := t)]

theorem realmTest_cons {c : Char} {rest authRealm : Str} (hne : authRealm ≠ []) :
    ∃ b, realmTest (some (c :: rest)) authRealm = .ok b ∧
      (b = true ↔
        osipStrcasecmp (c :: rest) authRealm = true ∨ InnerPrefix (c :: rest) authRealm) := by
  unfold realmTest
  dsimp only
  by_cases hsame : osipStrcasecmp (c :: rest) authRealm = true
  · exact ⟨true, by rw [if_pos hsame], by simp [hsame]⟩
  · rw [if_neg hsame]
    cases rest with
    | nil =>
        refine ⟨false, ?_, by simp [hsame, InnerPrefix]⟩
        cases authRealm with
        | nil => exact absurd rfl hne
        | cons a authRealm => rfl
    | cons d rest =>
        refine ⟨_, rfl, ?_⟩
        have hlen : (d :: rest).length - 1 ≤ (d :: rest).length := Nat.sub_le _ _
        rw [strncasecmp_eq_true_iff hlen, InnerPrefix, List.tail_cons, List.dropLast_eq_take]
        simp [hsame]

theorem realmTest_nil (realm : Option Str) : ∃ b, realmTest realm [] = .ok b := by
  match realm with
  | none => exact ⟨true, rfl⟩
  | some [] => exact ⟨true, rfl⟩
  | some [c] => exact ⟨true, rfl⟩
  | some (c :: d :: rest) => exact ⟨_, rfl⟩

/-- An entry with a realm that is not confused with the one asked for is taken only when it is
the right one. -/
theorem realmTest_of_not_confused {realm : Option Str} {authinfo : AuthInfo}
    (hfield : field authinfo.realm ≠ []) (h : ¬ Confused realm authinfo) :
    ∃ b, realmTest realm (field authinfo.realm) = .ok b ∧ (b = true → ForRealm realm authinfo) := by
  have hne : authinfo.realm ≠ [] := fun hnil => hfield (field_eq_nil.2 hnil)
  cases realm with
  | none => exact absurd ⟨hne, trivial⟩ h
  | some r =>
      cases r with
      | nil => exact absurd ⟨hne, .inl rfl⟩ h
      | cons c rest =>
          obtain ⟨b, hb, htaken⟩ := @realmTest_cons c rest _ hfield
          refine ⟨b, hb, fun htrue => .inr ⟨c :: rest, rfl, ?_⟩⟩
          by_contra hother
          exact h ⟨hne, .inr ⟨htaken.1 htrue, hother⟩⟩

theorem realmTest_of_confused {realm : Option Str} {authinfo : AuthInfo}
    (h : Confused realm authinfo) :
    (realmTest realm (field authinfo.realm) = .ok true ∧ ¬ ForRealm realm authinfo) ∨
      realmTest realm (field authinfo.realm) = .error .fault := by
  have hfield : field authinfo.realm ≠ [] := fun hnil => h.1 (field_eq_nil.1 hnil)
  cases realm with
  | none =>
      refine .inl ⟨rfl, fun hright => ?_⟩
      cases hright with
      | inl hnil => exact h.1 hnil
      | inr hsame =>
          obtain ⟨r, hr, -⟩ := hsame
          cases hr
  | some r =>
      cases r with
      | nil =>
          refine .inr ?_
          unfold realmTest
          cases hf : field authinfo.realm with
          | nil => exact absurd hf hfield
          | cons a rest => rfl
      | cons c rest =>
          cases h.2 with
          | inl hnil => cases hnil
          | inr hpass =>
              obtain ⟨b, hb, htaken⟩ := @realmTest_cons c rest _ hfield
              refine .inl ⟨by rw [hb, htaken.2 hpass.1], fun hright => ?_⟩
              cases hright with
              | inl hnil => exact h.1 hnil
              | inr hsame =>
                  obtain ⟨r, hr, hr'⟩ := hsame
                  cases hr
                  exact hpass.2 hr'

/-! ### The two loops -/

variable {realm : Option Str} {authinfos : List AuthInfo}

theorem findByUsername_spec (h : ∀ authinfo ∈ authinfos, ¬ Confused realm authinfo)
    (username : Str) {fallback : Option AuthInfo} (hfallback : ∀ a ∈ fallback, ForRealm realm a) :
    ∃ found, findByUsername username realm authinfos fallback = .ok found ∧
      (∀ a ∈ found.1, ForRealm realm a) ∧ ∀ a ∈ found.2, ForRealm realm a := by
  induction authinfos generalizing fallback with
  | nil =>
      refine ⟨_, rfl, fun a ha => ?_, hfallback⟩
      cases ha
  | cons authinfo authinfos ih =>
      have hrest := fun a ha => h a (List.mem_cons_of_mem authinfo ha)
      rw [findByUsername]
      split
      · split
        · next hnil =>
            apply ih hrest
            intro a ha
            cases ha
            exact .inl (field_eq_nil.1 hnil)
        · next hfield =>
            obtain ⟨b, hb, hright⟩ := realmTest_of_not_confused hfield (h authinfo List.mem_cons_self)
            rw [hb, ok_bind]
            cases b with
            | true =>
                refine ⟨_, rfl, fun a ha => ?_, hfallback⟩
                cases ha
                exact hright rfl
            | false => exact ih hrest hfallback
      · exact ih hrest hfallback

theorem findByRealm_spec (h : ∀ authinfo ∈ authinfos, ¬ Confused realm authinfo)
    {fallback : Option AuthInfo} (hfallback : ∀ a ∈ fallback, ForRealm realm a) :
    ∃ found, findByRealm realm authinfos fallback = .ok found ∧ ∀ a ∈ found, ForRealm realm a := by
  induction authinfos generalizing fallback with
  | nil => exact ⟨fallback, rfl, hfallback⟩
  | cons authinfo authinfos ih =>
      have hrest := fun a ha => h a (List.mem_cons_of_mem authinfo ha)
      rw [findByRealm]
      by_cases hfield : field authinfo.realm = []
      · have hwildcard : ForRealm realm authinfo := .inl (field_eq_nil.1 hfield)
        split
        · apply ih hrest
          intro a ha
          cases ha
          exact hwildcard
        · obtain ⟨b, hb⟩ := realmTest_nil realm
          rw [hfield, hb, ok_bind]
          cases b with
          | true =>
              refine ⟨_, rfl, fun a ha => ?_⟩
              cases ha
              exact hwildcard
          | false => exact ih hrest hfallback
      · rw [if_neg fun hboth => hfield hboth.1]
        obtain ⟨b, hb, hright⟩ := realmTest_of_not_confused hfield (h authinfo List.mem_cons_self)
        rw [hb, ok_bind]
        cases b with
        | true =>
            refine ⟨_, rfl, fun a ha => ?_⟩
            cases ha
            exact hright rfl
        | false => exact ih hrest hfallback

theorem wellDirected_of_not_confused (h : ∀ authinfo ∈ authinfos, ¬ Confused realm authinfo)
    (username : Str) : WellDirected authinfos username realm := by
  obtain ⟨found, hfound, hfirst, hsecond⟩ :=
    findByUsername_spec h username (fun a (ha : a ∈ none) => by cases ha)
  unfold WellDirected findAuthenticationInfo
  rw [hfound, ok_bind]
  cases hcase : found.1 with
  | some authinfo => exact ⟨some authinfo, rfl, hcase ▸ hfirst⟩
  | none => exact findByRealm_spec h hsecond

theorem not_wellDirected_of_confused {authinfo : AuthInfo} (h : Confused realm authinfo) :
    ¬ WellDirected [authinfo] (field authinfo.username) realm := by
  intro hdirected
  obtain ⟨found, hfound, hright⟩ := hdirected
  have hfield : field authinfo.realm ≠ [] := fun hnil => h.1 (field_eq_nil.1 hnil)
  have huser : osipStrcasecmp (field authinfo.username) (field authinfo.username) = true :=
    beq_self_eq_true _
  unfold findAuthenticationInfo at hfound
  rw [findByUsername, if_pos huser, if_neg hfield] at hfound
  cases realmTest_of_confused h with
  | inl htaken =>
      rw [htaken.1] at hfound
      cases hfound
      exact htaken.2 (hright authinfo rfl)
  | inr hfault =>
      rw [hfault] at hfound
      cases hfound

/-- Of a collection of credentials, in whatever order and for whatever user, none goes to
another realm exactly when the realm is confused with that of none of them. -/
theorem wellDirected_iff (authinfos : List AuthInfo) (realm : Option Str) :
    (∀ configured, configured ⊆ authinfos → ∀ username, WellDirected configured username realm) ↔
      ∀ authinfo ∈ authinfos, ¬ Confused realm authinfo := by
  constructor
  · intro h authinfo hmem hconfused
    have hsubset : [authinfo] ⊆ authinfos := by
      intro a ha
      rw [List.mem_singleton.1 ha]
      exact hmem
    exact not_wellDirected_of_confused hconfused (h [authinfo] hsubset (field authinfo.username))
  · intro h configured hsubset username
    exact wellDirected_of_not_confused (fun a ha => h a (hsubset ha)) username

/-- The credentials of the realm `abcdef` are sent to the realm `abc`. -/
theorem not_wellDirected :
    ¬ ∀ (authinfos : List AuthInfo) (username : Str) (realm : Str), realm ≠ [] →
      WellDirected authinfos username (some realm) := by
  intro h
  have hconfused : Confused (some "\"abc\"".toList)
      ⟨"al".toList, "al".toList, "secret".toList, [], "abcdef".toList⟩ := by
    refine ⟨by decide, .inr ⟨.inr ⟨by decide, by decide⟩, ?_⟩⟩
    show ¬ (_ = true)
    decide
  exact not_wellDirected_of_confused hconfused (h _ _ _ (by decide))

end AuthInfo
end Exosip
