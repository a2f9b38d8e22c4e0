import Chatflow.Proofs.Rendering.Segments
import Mathlib.Data.String.Basic

/-!
# What tokens mean

What a token stands for is said by `Template.Means`, token by token and apart from the list that is
worked through. That list has just the tokens that mean something, and none of them twice
(`Template.findEntry_tokens_iff`). So a token that stands alone becomes what it means, whatever else
there is (`Template.render_token`), and a template of pieces becomes what its pieces become
(`Template.render_write`), if the data bring no braces in.
-/

namespace Chatflow

namespace Template

/-! ### Meanings -/

/-- The text of a variable: of a text with a colon the part between the first and the second one,
or the end, of any other text the text, and of any other value its compact JSON. -/
inductive Renders : Json → String → Prop
  | whole {s : String} (h : ':' ∉ s.toList) : Renders (.str s) s
  | segment {a b rest : List Char} (ha : ':' ∉ a) (hb : ':' ∉ b)
      (hrest : rest = [] ∨ ∃ l, rest = ':' :: l) :
      Renders (.str (String.ofList (a ++ ':' :: (b ++ rest)))) (String.ofList b)
  | other {v : Json} (h : ∀ s, v ≠ .str s) : Renders v v.compact

/-- **What a token means**: a variable of the conversation, or else of the subscriber; the last
place; the sender, whose language may not be known; and the contact data. -/
inductive Means (c : Context) (vars : Dict Json) (contact : Dict String) : String → String → Prop
  | conversation {x t : String} {v : Json} (h : c.vars.find? x = some v) (ht : Renders v t) :
      Means c vars contact ("context.vars." ++ x) t
  | subscriber {x t : String} {v : Json} (hnone : c.vars.find? x = none)
      (h : vars.find? x = some v) (ht : Renders v t) : Means c vars contact ("context.vars." ++ x) t
  | address {d : Dict Json} {k : String} {v : Json} (hd : c.userLocation.address = some d)
      (h : d.find? k = some v) :
      Means c vars contact ("context.user_location.address." ++ k) v.display
  | lat : Means c vars contact "context.user_location.lat" (Decimal.plainText c.userLocation.lat)
  | lon : Means c vars contact "context.user_location.lon" (Decimal.plainText c.userLocation.lon)
  | id : Means c vars contact "context.user.id" c.user.id
  | firstName : Means c vars contact "context.user.first_name" c.user.firstName
  | lastName : Means c vars contact "context.user.last_name" c.user.lastName
  | language {l : String} (h : c.user.language = some l) :
      Means c vars contact "context.user.language" l
  | contact {k t : String} (h : contact.find? k = some t) :
      Means c vars contact ("contact." ++ k) t

/-- What a piece becomes: text stays, a token that means something becomes that, and any other stays
as it is written. -/
inductive Segment.Becomes (c : Context) (vars : Dict Json) (contact : Dict String) :
    Segment → String → Prop
  | literal {t : String} {h : opener ∉ t.toList} : Becomes c vars contact (.literal t h) t
  | known {name t : String} {h : opener ∉ name.toList} {h' : closer ∉ name.toList}
      (ht : Means c vars contact name t) : Becomes c vars contact (.token name h h') t
  | unknown {name : String} {h : opener ∉ name.toList} {h' : closer ∉ name.toList}
      (hnone : ∀ t, ¬Means c vars contact name t) :
      Becomes c vars contact (.token name h h') (Template.token name)

/-! ### Coordinates -/

section

variable {m : Char} (hdigit : m.isDigit = false) (hother : m ∉ ".-NaNinf".toList)
include hdigit

theorem not_mem_toString (n : Nat) : m ∉ (toString n).toList := by
  intro h
  rw [Nat.toString_eq_repr, Nat.toList_repr] at h
  rw [Nat.isDigit_of_mem_toDigits (by decide) (by decide) h] at hdigit
  cases hdigit

include hother

/-- Plain text is written with digits and a point. -/
theorem not_mem_write (d : Decimal) : m ∉ (Decimal.Layout.plain.write d).toList := by
  have hdigits := not_mem_toString hdigit d.digits
  have hzero : m ≠ '0' := fun h => absurd (h ▸ hdigit) (by decide)
  have hpoint : m ≠ '.' := fun h => hother (h ▸ by decide)
  have hzeros : ∀ n : Nat, m ∉ List.replicate n '0' := fun n h =>
    hzero (List.eq_of_mem_replicate h)
  unfold Decimal.Layout.write
  dsimp only
  split
  · exact fun h => hzero (List.mem_singleton.mp h)
  · rw [if_pos (by rfl)]
    split
    · change m ∉ (String.ofList ((toString d.digits).toList ++ List.replicate _ '0') ++ "").toList
      rw [String.toList_append, String.toList_ofList, List.mem_append, List.mem_append, not_or,
        not_or]
      exact ⟨⟨hdigits, hzeros _⟩, List.not_mem_nil⟩
    · split
      · rw [String.toList_ofList, List.mem_append, List.mem_cons, not_or, not_or]
        exact ⟨fun h => hdigits (List.mem_of_mem_take h), hpoint,
          fun h => hdigits (List.mem_of_mem_drop h)⟩
      · change m ∉
          (String.ofList ('0' :: '.' :: List.replicate _ '0' ++ (toString d.digits).toList)).toList
        rw [String.toList_ofList, List.mem_append, List.mem_cons, List.mem_cons, not_or, not_or,
          not_or]
        exact ⟨⟨hzero, hpoint, hzeros _⟩, hdigits⟩

/-- A coordinate is written with digits, a point and a sign, or is one of three words. -/
theorem not_mem_plainText (x : Float) : m ∉ (Decimal.plainText x).toList := by
  have hwords : ∀ word ∈ ["NaN", "inf", "-inf", "-", ""], m ∉ word.toList := by
    have hsubset : ∀ word ∈ ["NaN", "inf", "-inf", "-", ""], word.toList ⊆ ".-NaNinf".toList := by
      decide
    exact fun word hword h => hother (hsubset word hword h)
  unfold Decimal.plainText
  split
  · exact hwords _ (by decide)
  · split
    · split <;> exact hwords _ (by decide)
    · rw [Decimal.Layout.writeFloat, String.toList_append, List.mem_append, not_or]
      refine ⟨?_, not_mem_write hdigit hother _⟩
      split <;> exact hwords _ (by decide)

end

/-! ### Variables -/

theorem varText_of_not_mem {s : String} (h : ':' ∉ s.toList) : varText (.str s) = s := by
  rw [varText, if_neg (by simpa using h)]

theorem varText_of_segment {a b rest : List Char} (ha : ':' ∉ a) (hb : ':' ∉ b)
    (hrest : rest = [] ∨ ∃ l, rest = ':' :: l) :
    varText (.str (String.ofList (a ++ ':' :: (b ++ rest)))) = String.ofList b := by
  have hfree : ∀ {l : List Char}, ':' ∉ l → ∀ x ∈ l, decide (x = ':') = false :=
    fun hl x hx => decide_eq_false fun heq => hl (heq ▸ hx)
  have hsplit : List.splitOnP (fun x => decide (x = ':')) (b ++ rest) = b ::
      (List.splitOnP (fun x => decide (x = ':')) (b ++ rest)).tail := by
    obtain rfl | ⟨l, rfl⟩ := hrest
    · rw [List.append_nil, List.splitOnP_eq_singleton (hfree hb)]
      rfl
    · rw [List.splitOnP_append_cons_of_forall_mem (hfree hb) _ (by decide)]
      rfl
  rw [varText, String.toList_ofList, if_pos (by simp), String.splitToList_of_valid,
    String.toList_ofList, List.splitOnP_append_cons_of_forall_mem (hfree ha) _ (by decide), hsplit]
  rfl

theorem renders_iff {v : Json} {t : String} : Renders v t ↔ varText v = t := by
  constructor
  · intro h
    cases h with
    | whole h => exact varText_of_not_mem h
    | segment ha hb hrest => exact varText_of_segment ha hb hrest
    | other h =>
      cases v with
      | str s => exact absurd rfl (h s)
      | _ => rfl
  · rintro rfl
    cases v with
    | str s =>
      by_cases hcolon : ':' ∈ s.toList
      · obtain ⟨a, tail, hs, ha⟩ := List.eq_append_cons_of_mem hcolon
        obtain ⟨b, rest, rfl, hb, hrest⟩ : ∃ b rest, tail = b ++ rest ∧ ':' ∉ b ∧
            (rest = [] ∨ ∃ l, rest = ':' :: l) := by
          by_cases htail : ':' ∈ tail
          · obtain ⟨b, l, rfl, hb⟩ := List.eq_append_cons_of_mem htail
            exact ⟨b, _, rfl, hb, .inr ⟨l, rfl⟩⟩
          · exact ⟨tail, [], (List.append_nil _).symm, htail, .inl rfl⟩
        obtain rfl : s = String.ofList (a ++ ':' :: (b ++ rest)) :=
          String.toList_injective (by rw [hs, String.toList_ofList])
        rw [varText_of_segment ha hb hrest]
        exact .segment ha hb hrest
      · rw [varText_of_not_mem hcolon]
        exact .whole hcolon
    | _ => exact .other fun s h => nomatch h

/-! ### The tokens that are replaced -/

variable {c : Context} {vars : Dict Json} {contact : Dict String}

theorem mem_varTokens {n t : String} : (n, t) ∈ varTokens c vars ↔
    ∃ x v, (c.vars.find? x).or (vars.find? x) = some v ∧ n = "context.vars." ++ x ∧
      Renders v t := by
  rw [varTokens, List.mem_map]
  constructor
  · rintro ⟨e, he, h⟩
    obtain ⟨rfl, rfl⟩ := Prod.mk.inj h
    refine ⟨e.1, e.2, ?_, rfl, renders_iff.mpr rfl⟩
    rw [← Dict.find?_overlay]
    exact Dict.findEntry_of_mem (vars.overlay c.vars).sorted he
  · rintro ⟨x, v, h, rfl, ht⟩
    rw [← Dict.find?_overlay] at h
    exact ⟨(x, v), Dict.mem_of_findEntry h, by rw [renders_iff.mp ht]⟩

theorem mem_placeTokens {l : UserLocation} {n t : String} : (n, t) ∈ placeTokens l ↔
    (∃ d k v, l.address = some d ∧ d.find? k = some v ∧
      n = "context.user_location.address." ++ k ∧ t = v.display) ∨
    (n = "context.user_location.lat" ∧ t = Decimal.plainText l.lat) ∨
    (n = "context.user_location.lon" ∧ t = Decimal.plainText l.lon) := by
  rw [placeTokens, List.mem_append, List.mem_map]
  refine or_congr ?_ (by simp)
  constructor
  · rintro ⟨e, he, h⟩
    obtain ⟨rfl, rfl⟩ := Prod.mk.inj h
    cases hd : l.address with
    | none =>
      rw [hd] at he
      cases he
    | some d =>
      rw [hd] at he
      exact ⟨d, e.1, e.2, rfl, Dict.findEntry_of_mem d.sorted he, rfl, rfl⟩
  · rintro ⟨d, k, v, hd, h, rfl, rfl⟩
    rw [hd]
    exact ⟨(k, v), Dict.mem_of_findEntry h, rfl⟩

theorem mem_contactTokens {n t : String} : (n, t) ∈ contactTokens contact ↔
    ∃ k, contact.find? k = some t ∧ n = "contact." ++ k := by
  rw [contactTokens, List.mem_map]
  constructor
  · rintro ⟨e, he, h⟩
    obtain ⟨rfl, rfl⟩ := Prod.mk.inj h
    exact ⟨e.1, Dict.findEntry_of_mem contact.sorted he, rfl⟩
  · rintro ⟨k, h, rfl⟩
    exact ⟨(k, t), Dict.mem_of_findEntry h, rfl⟩

theorem mem_userTokens_iff {u : UserSnapshot} {n t : String} : (n, t) ∈ userTokens u ↔
    (n = "context.user.id" ∧ t = u.id) ∨ (n = "context.user.first_name" ∧ t = u.firstName) ∨
    (n = "context.user.last_name" ∧ t = u.lastName) ∨
    (n = "context.user.language" ∧ u.language = some t) := by
  rw [mem_userTokens]
  constructor
  · rintro ⟨k, v, h, heq⟩
    obtain ⟨rfl, rfl⟩ := Prod.mk.inj heq
    have hk := UserSnapshot.mem_names_of_find? h
    simp only [UserSnapshot.names, List.mem_cons, List.not_mem_nil, or_false] at hk
    obtain rfl | rfl | rfl | rfl := hk
    · rw [UserSnapshot.find?_fields_id] at h
      exact .inl ⟨rfl, (Option.some.inj h).symm⟩
    · rw [UserSnapshot.find?_fields_firstName] at h
      exact .inr (.inl ⟨rfl, (Option.some.inj h).symm⟩)
    · rw [UserSnapshot.find?_fields_lastName] at h
      exact .inr (.inr (.inl ⟨rfl, (Option.some.inj h).symm⟩))
    · rw [UserSnapshot.find?_fields_language] at h
      exact .inr (.inr (.inr ⟨rfl, h⟩))
  · rintro (⟨rfl, rfl⟩ | ⟨rfl, rfl⟩ | ⟨rfl, rfl⟩ | ⟨rfl, h⟩)
    · exact ⟨_, _, UserSnapshot.find?_fields_id u, rfl⟩
    · exact ⟨_, _, UserSnapshot.find?_fields_firstName u, rfl⟩
    · exact ⟨_, _, UserSnapshot.find?_fields_lastName u, rfl⟩
    · exact ⟨_, _, (UserSnapshot.find?_fields_language u).trans h, rfl⟩

/-- **The tokens that are replaced are those that mean something.** -/
theorem mem_tokens_iff {n t : String} :
    (n, t) ∈ tokens c vars contact ↔ Means c vars contact n t := by
  simp only [tokens, List.mem_append, mem_varTokens, mem_placeTokens, mem_userTokens_iff,
    mem_contactTokens]
  constructor
  · rintro (((⟨x, v, h, rfl, ht⟩ | ⟨d, k, v, hd, h, rfl, rfl⟩ | ⟨rfl, rfl⟩ | ⟨rfl, rfl⟩) |
      ⟨rfl, rfl⟩ | ⟨rfl, rfl⟩ | ⟨rfl, rfl⟩ | ⟨rfl, h⟩) | ⟨k, h, rfl⟩)
    · obtain h | ⟨hnone, h⟩ := Option.or_eq_some_iff.mp h
      · exact .conversation h ht
      · exact .subscriber hnone h ht
    · exact .address hd h
    · exact .lat
    · exact .lon
    · exact .id
    · exact .firstName
    · exact .lastName
    · exact .language h
    · exact .contact h
  · intro h
    cases h with
    | conversation h ht =>
      exact .inl (.inl (.inl ⟨_, _, Option.or_eq_some_iff.mpr (.inl h), rfl, ht⟩))
    | subscriber hnone h ht =>
      exact .inl (.inl (.inl ⟨_, _, Option.or_eq_some_iff.mpr (.inr ⟨hnone, h⟩), rfl, ht⟩))
    | address hd h => exact .inl (.inl (.inr (.inl ⟨_, _, _, hd, h, rfl, rfl⟩)))
    | lat => exact .inl (.inl (.inr (.inr (.inl ⟨rfl, rfl⟩))))
    | lon => exact .inl (.inl (.inr (.inr (.inr ⟨rfl, rfl⟩))))
    | id => exact .inl (.inr (.inl ⟨rfl, rfl⟩))
    | firstName => exact .inl (.inr (.inr (.inl ⟨rfl, rfl⟩)))
    | lastName => exact .inl (.inr (.inr (.inr (.inl ⟨rfl, rfl⟩))))
    | language h => exact .inl (.inr (.inr (.inr (.inr ⟨rfl, h⟩))))
    | contact h => exact .inr ⟨_, h, rfl⟩

/-- The keys of a dictionary give different names in a group. -/
theorem nodup_group {α : Type} (group : String) (text : α → String) (d : Dict α) :
    ((d.entries.map fun e => (group ++ e.1, text e.2)).map (·.1)).Nodup := by
  have hinjective : Function.Injective (group ++ ·) := fun a b h =>
    String.toList_injective (by simpa using congrArg String.toList h)
  have hkeys := d.nodup_keys.map hinjective
  rwa [List.map_map] at hkeys ⊢

/-- Groups of names that differ early have no name in common. -/
theorem disjoint_of_differ {ts ts' : List (String × String)} {a b : List Char}
    (ha : ∀ t ∈ ts, a <+: t.1.toList) (hb : ∀ t ∈ ts', b <+: t.1.toList)
    (hlength : a.length = b.length) (hne : a ≠ b) : (ts.map (·.1)).Disjoint (ts'.map (·.1)) := by
  intro n hn hn'
  obtain ⟨t, ht, rfl⟩ := List.mem_map.mp hn
  obtain ⟨t', ht', heq⟩ := List.mem_map.mp hn'
  exact ne_of_differ (ha t ht) (hb t' ht') hlength hne heq.symm

theorem nodup_placeTokens (l : UserLocation) : ((placeTokens l).map (·.1)).Nodup := by
  have hcoordinates : ["context.user_location.lat", "context.user_location.lon"].Nodup := by decide
  rw [placeTokens, List.map_append]
  refine (nodup_group _ _ _).append hcoordinates ?_
  refine disjoint_of_differ (a := "context.user_location.a".toList)
    (b := "context.user_location.l".toList) (fun t ht => ?_) (fun t ht => ?_) (by decide)
    (by decide)
  · obtain ⟨x, -, rfl⟩ := List.mem_map.mp ht
    exact prefix_toList_append (by decide) _
  · have hlat : "context.user_location.l".toList <+: "context.user_location.lat".toList := by decide
    have hlon : "context.user_location.l".toList <+: "context.user_location.lon".toList := by decide
    simp only [List.mem_cons, List.not_mem_nil, or_false] at ht
    obtain rfl | rfl := ht
    · exact hlat
    · exact hlon

/-- No token is replaced twice. -/
theorem nodup_tokens (c : Context) (vars : Dict Json) (contact : Dict String) :
    ((tokens c vars contact).map (·.1)).Nodup := by
  -- the groups differ at the fifth character, at the ninth, and after `user`
  have hvars : ∀ {a : List Char}, a <+: "context.vars.".toList →
      ∀ t ∈ varTokens c vars, a <+: t.1.toList :=
    fun ha t ht => ha.trans (begins_of_mem_varTokens ht)
  have hplace : ∀ {a : List Char}, a <+: "context.user_location.".toList →
      ∀ t ∈ placeTokens c.userLocation, a <+: t.1.toList :=
    fun ha t ht => ha.trans (begins_of_mem_placeTokens ht)
  have huser : ∀ {a : List Char}, a <+: "context.user.".toList →
      ∀ t ∈ userTokens c.user, a <+: t.1.toList :=
    fun ha t ht => ha.trans (begins_of_mem_userTokens ht)
  have hcontact : ∀ t ∈ contactTokens contact, "conta".toList <+: t.1.toList :=
    fun t ht => List.IsPrefix.trans (by decide) (begins_of_mem_contactTokens ht)
  have hothers : ∀ t ∈ varTokens c vars ++ placeTokens c.userLocation ++ userTokens c.user,
      "conte".toList <+: t.1.toList := by
    intro t ht
    simp only [List.mem_append] at ht
    obtain (ht | ht) | ht := ht
    · exact hvars (by decide) t ht
    · exact hplace (by decide) t ht
    · exact huser (by decide) t ht
  have hdisjoint := disjoint_of_differ hothers hcontact (by decide) (by decide)
  have hvarsPlace := disjoint_of_differ (a := "context.v".toList) (b := "context.u".toList)
    (hvars (by decide)) (hplace (by decide)) (by decide) (by decide)
  have hvarsUser := disjoint_of_differ (a := "context.v".toList) (b := "context.u".toList)
    (hvars (by decide)) (huser (by decide)) (by decide) (by decide)
  have hplaceUser := disjoint_of_differ (a := "context.user_".toList) (b := "context.user.".toList)
    (hplace (by decide)) (huser (by decide)) (by decide) (by decide)
  rw [tokens, List.map_append]
  refine List.Nodup.append ?_ (nodup_group "contact." (fun t => t) contact) hdisjoint
  rw [List.map_append, List.map_append]
  refine List.Nodup.append ?_ (nodup_group "context.user." (fun t => t) c.user.fields)
    (List.disjoint_append_left.mpr ⟨hvarsUser, hplaceUser⟩)
  exact (nodup_group _ _ _).append (nodup_placeTokens _) hvarsPlace

/-- What is found at a name is what its token means. -/
theorem findEntry_tokens_iff {name t : String} :
    Dict.findEntry name (tokens c vars contact) = some t ↔ Means c vars contact name t :=
  ⟨fun h => mem_tokens_iff.mp (Dict.mem_of_findEntry h),
    fun h => Dict.findEntry_of_nodup (nodup_tokens c vars contact) (mem_tokens_iff.mpr h)⟩

/-- **A token alone becomes what it means**, whatever else there is, if neither its name nor its
text has an opening brace and the name has no closing one. -/
theorem render_token {name t : String} (h : Means c vars contact name t)
    (unopened : opener ∉ name.toList) (unclosed : closer ∉ name.toList)
    (ht : opener ∉ t.toList) : render (token name) c vars contact = t := by
  have hother : ∀ e ∈ tokens c vars contact,
      e = (name, t) ∨ ¬(token e.1).toList <+: (token name).toList ++ [] := by
    intro e he
    by_cases hname : e.1 = name
    · have hsame := findEntry_tokens_iff.mpr (mem_tokens_iff.mp he)
      rw [hname, findEntry_tokens_iff.mpr h] at hsame
      exact .inl (Prod.ext hname (Option.some.inj hsame).symm)
    · exact .inr fun hbegins =>
        hname (eq_of_token_begins unclosed (.inr List.not_mem_nil) hbegins)
  have hall : replaceAll (tokens c vars contact) ([] ++ (token name).toList ++ []) =
      [] ++ t.toList ++ [] :=
    replaceAll_token hother (mem_tokens_iff.mpr h) List.not_mem_nil List.not_mem_nil ht unopened
  rw [List.nil_append, List.append_nil, List.nil_append, List.append_nil] at hall
  rw [render_eq_replaceAll, hall, String.ofList_toList]

/-- What is made of a piece is what it becomes. -/
theorem Segment.expand_tokens_iff {p : Segment} {t : String} :
    p.expand (tokens c vars contact) = t ↔ p.Becomes c vars contact t := by
  constructor
  · rintro rfl
    cases p with
    | literal text unopened => exact .literal
    | token name unopened unclosed =>
      rw [expand]
      cases hfind : Dict.findEntry name (tokens c vars contact) with
      | none => exact .unknown fun t ht => by simp [findEntry_tokens_iff.mpr ht] at hfind
      | some t => exact .known (findEntry_tokens_iff.mp hfind)
  · intro h
    cases h with
    | literal => rfl
    | known ht => rw [expand, findEntry_tokens_iff.mpr ht, Option.getD_some]
    | unknown hnone =>
      rw [expand, Option.eq_none_iff_forall_ne_some.mpr fun t ht =>
        hnone t (findEntry_tokens_iff.mp ht), Option.getD_none]

/-- **All tokens become what they mean, at once**, and all else stays: the text that a template of
pieces is rendered to is that of the pieces, one after the other. This is so if no name of a token
that means something has a closing brace and no text an opening one. -/
theorem render_write (segments : List Segment)
    (hflat : ∀ name t, Means c vars contact name t → closer ∉ name.toList ∧ opener ∉ t.toList)
    (out : String) :
    render (write segments) c vars contact = out ↔
      ∃ texts, List.Forall₂ (Segment.Becomes c vars contact) segments texts ∧
        out = String.join texts := by
  have hts : Flat (tokens c vars contact) := fun t ht => hflat _ _ (mem_tokens_iff.mp ht)
  have hbecomes : Segment.Becomes c vars contact =
      fun p t => p.expand (tokens c vars contact) = t := by
    funext p t
    exact propext Segment.expand_tokens_iff.symm
  have hforall : ∀ texts, List.Forall₂ (Segment.Becomes c vars contact) segments texts ↔
      segments.map (Segment.expand (tokens c vars contact)) = texts := by
    intro texts
    rw [hbecomes, ← List.forall₂_map_left_iff, List.forall₂_eq_eq_eq]
  rw [render_eq_replaceAll, replaceAll_write hts, String.ofList_toList, expandAll, eq_comm]
  simp only [hforall, exists_eq_left']

end Template

namespace Sample

/-- The context of Ann, who chose a size. -/
def fitted : Context :=
  { Context.empty with
    user := ⟨"sub-1", "Ann", "Lee", none⟩
    vars := .ofList [("age", .int 30), ("size", .str "SIZE:Large")] }

/-- Some contact data. -/
def shop : Dict String := .ofList [("name", "Threads")]

/-- A template with a token twice, next to each other, and with one that means nothing. -/
def offer : List Template.Segment :=
  [.token "context.user.first_name" (by decide) (by decide), .literal ", " (by decide),
    .token "context.vars.size" (by decide) (by decide),
    .token "context.vars.size" (by decide) (by decide),
    .token "context.vars.sizes" (by decide) (by decide), .literal " at " (by decide),
    .token "contact.name" (by decide) (by decide)]

end Sample

/-- The size is said twice, and the unknown token stays. -/
theorem Template.render_write_offer :
    render (write Sample.offer) Sample.fitted .empty Sample.shop =
      "Ann, LargeLarge\x7bcontext.vars.sizes\x7d at Threads" := by
  have hlarge : Renders (.str "SIZE:Large") "Large" :=
    .segment (a := "SIZE".toList) (b := "Large".toList) (by decide) (by decide) (.inl rfl)
  have hflat : ∀ name t, Means Sample.fitted .empty Sample.shop name t →
      closer ∉ name.toList ∧ opener ∉ t.toList := by
    intro name t h
    cases h with
    | @conversation x _ v h ht =>
      have hmem : (x, v) ∈ [("age", Json.int 30), ("size", Json.str "SIZE:Large")] :=
        Dict.mem_of_findEntry h
      rw [← renders_iff.mp ht]
      simp only [List.mem_cons, List.not_mem_nil, or_false, Prod.mk.injEq] at hmem
      obtain ⟨rfl, rfl⟩ | ⟨rfl, rfl⟩ := hmem
      · exact ⟨by decide, by decide⟩
      · exact ⟨by decide, by rw [renders_iff.mp hlarge]; decide⟩
    | subscriber _ h => cases h
    | address hd => cases hd
    | lat | lon => exact ⟨by decide, not_mem_plainText (by decide) (by decide) _⟩
    | id | firstName | lastName => exact ⟨by decide, by decide⟩
    | language h => cases h
    | @contact k _ h =>
      have hmem : (k, t) ∈ [("name", "Threads")] := Dict.mem_of_findEntry h
      obtain ⟨rfl, rfl⟩ := Prod.mk.inj (List.mem_singleton.mp hmem)
      exact ⟨by decide, by decide⟩
  have hsize : Means Sample.fitted .empty Sample.shop "context.vars.size" "Large" :=
    .conversation (x := "size") rfl hlarge
  have hsizes : ∀ t, ¬Means Sample.fitted .empty Sample.shop "context.vars.sizes" t :=
    fun t ht => Dict.not_mem_of_findEntry (by decide) t (mem_tokens_iff.mpr ht)
  have hname : Means Sample.fitted .empty Sample.shop "contact.name" "Threads" :=
    .contact (k := "name") rfl
  refine (render_write Sample.offer hflat _).mpr ⟨["Ann", ", ", "Large", "Large",
    "\x7bcontext.vars.sizes\x7d", " at ", "Threads"], ?_, by decide⟩
  exact .cons (.known .firstName) (.cons .literal (.cons (.known hsize) (.cons (.known hsize)
    (.cons (.unknown hsizes) (.cons .literal (.cons (.known hname) .nil))))))

end Chatflow
