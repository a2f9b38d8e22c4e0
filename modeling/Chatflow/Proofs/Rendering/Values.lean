import Chatflow.Proofs.Rendering.Meaning

/-!
# What the value of a variable brings in

The text of a variable is put in for its token once the tokens before it were replaced, and then the
tokens after it are replaced in it as in all else. So every value is rendered again
(`Template.render_binding`): one without an opening brace stays as it is, but in one that has the
token of a later variable, of the place, of the user or of the contact data, this token is replaced
too.

For a template of pieces this is said by a marker in place of the value. What the value makes of the
template is what the marker makes of it, with the marker replaced by the value as the tokens after
it leave it.
-/

namespace Chatflow

/-- The context in which a variable has a value. -/
def Context.binding (c : Context) (x : String) (v : Json) : Context :=
  { c with vars := c.vars.insert x v }

namespace Template

/-! ### The tokens around a variable -/

/-- The tokens that are replaced before that of a variable: those of the variables before it. -/
def tokensBefore (c : Context) (vars : Dict Json) (x : String) : List (String × String) :=
  ((vars.overlay c.vars).entries.filter (·.1 < x)).map
    fun e => ("context.vars." ++ e.1, varText e.2)

/-- The tokens that are replaced after that of a variable: those of the variables after it, of the
place, of the user and of the contact data. -/
def tokensAfter (c : Context) (vars : Dict Json) (contact : Dict String) (x : String) :
    List (String × String) :=
  ((vars.overlay c.vars).entries.filter (x < ·.1)).map
      (fun e => ("context.vars." ++ e.1, varText e.2)) ++
    placeTokens c.userLocation ++ userTokens c.user ++ contactTokens contact

variable {c : Context} {vars : Dict Json} {contact : Dict String} {x : String}

theorem tokens_binding (c : Context) (vars : Dict Json) (contact : Dict String) (x : String)
    (v : Json) : tokens (c.binding x v) vars contact =
      tokensBefore c vars x ++ ("context.vars." ++ x, varText v) ::
        tokensAfter c vars contact x := by
  rw [tokens, varTokens, Context.binding, Dict.overlay_insert, Dict.entries_insert, List.map_append,
    List.map_cons, tokensBefore, tokensAfter]
  simp only [List.append_assoc, List.cons_append]

/-- The other tokens mean something, and have other names. -/
theorem means_of_mem_others {t : String × String}
    (ht : t ∈ tokensBefore c vars x ++ tokensAfter c vars contact x) :
    Means c vars contact t.1 t.2 ∧ t.1 ≠ "context.vars." ++ x := by
  have hvar : "context.v".toList <+: ("context.vars." ++ x).toList :=
    prefix_toList_append (by decide) x
  have hentry : ∀ {p : String × Json → Bool}, (∀ e, p e = true → e.1 ≠ x) →
      t ∈ ((vars.overlay c.vars).entries.filter p).map
        (fun e => ("context.vars." ++ e.1, varText e.2)) →
      t ∈ tokens c vars contact ∧ t.1 ≠ "context.vars." ++ x := by
    intro p hp ht
    obtain ⟨e, he, rfl⟩ := List.mem_map.mp ht
    obtain ⟨he, hpe⟩ := List.mem_filter.mp he
    refine ⟨?_, fun heq => hp e hpe ?_⟩
    · simp only [tokens, List.mem_append]
      exact .inl (.inl (.inl (List.mem_map.mpr ⟨e, he, rfl⟩)))
    · exact String.toList_injective (by simpa using congrArg String.toList heq)
  have hmem : t ∈ tokens c vars contact ∧ t.1 ≠ "context.vars." ++ x := by
    simp only [tokensAfter, List.mem_append] at ht
    obtain ht | ((ht | ht) | ht) | ht := ht
    · exact hentry (fun e he heq => by simp [heq] at he) ht
    · exact hentry (fun e he heq => by simp [heq] at he) ht
    · have hbegins : "context.u".toList <+: t.1.toList :=
        List.IsPrefix.trans (by decide) (begins_of_mem_placeTokens ht)
      refine ⟨?_, ne_of_differ hbegins hvar (by decide) (by decide)⟩
      simp [tokens, ht]
    · have hbegins : "context.u".toList <+: t.1.toList :=
        List.IsPrefix.trans (by decide) (begins_of_mem_userTokens ht)
      refine ⟨?_, ne_of_differ hbegins hvar (by decide) (by decide)⟩
      simp [tokens, ht]
    · have hbegins : "conta".toList <+: t.1.toList :=
        List.IsPrefix.trans (by decide) (begins_of_mem_contactTokens ht)
      refine ⟨?_, ne_of_differ hbegins (prefix_toList_append (a := "conte".toList) (by decide) x)
        (by decide) (by decide)⟩
      simp [tokens, ht]
  exact ⟨mem_tokens_iff.mp hmem.1, hmem.2⟩

/-! ### Markers -/

/-- A marker for a variable, in a template of pieces and with data in which all braces are those of
tokens: it begins with a character that occurs nowhere else. -/
structure Marks (marker : String) (x : String) (segments : List Segment) (c : Context)
    (vars : Dict Json) (contact : Dict String) : Prop where
  /-- The name of the variable has no closing brace. -/
  unclosed : closer ∉ x.toList
  /-- The other tokens bring no brace in. -/
  flat : ∀ name t, Means c vars contact name t → name ≠ "context.vars." ++ x →
    closer ∉ name.toList ∧ opener ∉ t.toList
  /-- The marker is a value that is put in as it is. -/
  plain : ':' ∉ marker.toList ∧ opener ∉ marker.toList
  /-- The first character occurs neither in the template nor in the texts of other tokens. -/
  fresh : ∃ m rest, marker.toList = m :: rest ∧ m ∉ (write segments).toList ∧
    ∀ name t, Means c vars contact name t → name ≠ "context.vars." ++ x → m ∉ t.toList

/-- The characters of a piece are in the template. -/
theorem mem_write {segments : List Segment} {p : Segment} (hp : p ∈ segments) {m : Char}
    (hm : m ∈ p.text.toList) : m ∈ (write segments).toList := by
  rw [write, String.toList_join, List.mem_flatMap]
  exact ⟨p.text, List.mem_map_of_mem hp, hm⟩

/-- A character comes into a template by a text that is put in. -/
theorem not_mem_expand {ts : List (String × String)} {m : Char} {segments : List Segment}
    (hts : ∀ t ∈ ts, m ∉ t.2.toList) (hm : m ∉ (write segments).toList) {p : Segment}
    (hp : p ∈ segments) : m ∉ (p.expand ts).toList := by
  have htext : m ∉ p.text.toList := fun h => hm (mem_write hp h)
  cases p with
  | literal text unopened => exact htext
  | token name unopened unclosed =>
    rw [Segment.expand]
    cases hfind : Dict.findEntry name ts with
    | none => exact htext
    | some t => exact hts _ (Dict.mem_of_findEntry hfind)

/-- A marker that was put in for a token and is then replaced by what becomes of some pieces makes
of the template what these pieces make of it when they are put in. -/
theorem replace_marked {ts : List (String × String)} {marker name : String} {m : Char}
    {rest : List Char} (hmarker : marker.toList = m :: rest) (hplain : opener ∉ marker.toList)
    (pieces : List Segment) {segments : List Segment}
    (hm : ∀ p ∈ segments, m ∉ (p.expand ts).toList) :
    replace (expandAll ts (segments.flatMap (Segment.put name [.literal marker hplain]))).toList
        marker (expandAll ts pieces) =
      (expandAll ts (segments.flatMap (Segment.put name pieces))).toList := by
  induction segments with
  | nil => rfl
  | cons p segments ih =>
    have hrest := ih fun p hp => hm p (List.mem_cons_of_mem _ hp)
    rw [replace, hmarker] at hrest
    rw [List.flatMap_cons, List.flatMap_cons, toList_expandAll_append, toList_expandAll_append,
      replace, hmarker, ← hrest]
    have hp := hm p List.mem_cons_self
    cases p with
    | literal text unopened =>
      rw [Segment.put, Segment.put, toList_expandAll_singleton, replaceFrom_append hp]
    | token name' unopened unclosed =>
      rw [Segment.put, Segment.put]
      split
      · rw [toList_expandAll_singleton, Segment.expand, hmarker, replaceFrom_of_begins]
      · rw [toList_expandAll_singleton, replaceFrom_append hp]

/-- What a template of pieces is rendered to where a variable has a value of pieces: the tokens
before the variable leave pieces again, and those after it are replaced in the value too. -/
theorem render_write_binding {v : Json} {segments pieces segments' : List Segment}
    (hx : closer ∉ x.toList) (hv : varText v = write pieces)
    (hbefore : replaceAll (tokensBefore c vars x) (write segments).toList =
      (write segments').toList) (hafter : Flat (tokensAfter c vars contact x)) :
    render (write segments) (c.binding x v) vars contact =
      expandAll (tokensAfter c vars contact x)
        (segments'.flatMap (Segment.put ("context.vars." ++ x) pieces)) := by
  have hname : closer ∉ ("context.vars." ++ x).toList := not_mem_toList_append (by decide) hx
  rw [render_eq_replaceAll, tokens_binding, replaceAll_append, replaceAll_cons, hbefore, hv,
    replace_write hname, replaceAll_write hafter, String.ofList_toList]

/-- A value of pieces takes the place of a marker as the tokens after the variable leave it. -/
theorem Marks.render_binding_eq {marker : String} {segments : List Segment}
    (h : Marks marker x segments c vars contact) {v : Json} {pieces : List Segment}
    (hv : varText v = write pieces) :
    render (write segments) (c.binding x v) vars contact =
      String.ofList (replace
        (render (write segments) (c.binding x (.str marker)) vars contact).toList marker
        (String.ofList (replaceAll (tokensAfter c vars contact x) (varText v).toList))) := by
  obtain ⟨m, rest, hmarker, hsegments, htexts⟩ := h.fresh
  have hothers : ∀ t ∈ tokensBefore c vars x ++ tokensAfter c vars contact x,
      (closer ∉ t.1.toList ∧ opener ∉ t.2.toList) ∧ m ∉ t.2.toList := fun t ht =>
    have ⟨hmeans, hne⟩ := means_of_mem_others ht
    ⟨h.flat _ _ hmeans hne, htexts _ _ hmeans hne⟩
  have hbefore : Flat (tokensBefore c vars x) := fun t ht =>
    (hothers t (List.mem_append_left _ ht)).1
  have hafter : Flat (tokensAfter c vars contact x) := fun t ht =>
    (hothers t (List.mem_append_right _ ht)).1
  obtain ⟨segments', hreplaced, hexpand⟩ := exists_replaceAll_write hbefore segments
  have hliteral : varText (.str marker) = write [.literal marker h.plain.2] :=
    (varText_of_not_mem h.plain.1).trans (write_literal _).symm
  -- the marker does not begin in what is left of the template
  have hm : ∀ p ∈ segments', m ∉ (p.expand (tokensAfter c vars contact x)).toList := by
    intro p hp
    have hmem := List.mem_map_of_mem (f := Segment.expand (tokensAfter c vars contact x)) hp
    rw [hexpand] at hmem
    obtain ⟨p₀, hp₀, heq⟩ := List.mem_map.mp hmem
    rw [← heq]
    exact not_mem_expand (fun t ht => (hothers t ht).2) hsegments hp₀
  rw [render_write_binding h.unclosed hv hreplaced hafter,
    render_write_binding h.unclosed hliteral hreplaced hafter, hv, replaceAll_write hafter,
    String.ofList_toList, replace_marked hmarker h.plain.2 pieces hm, String.ofList_toList]

/-- **What the value of a variable brings in.** In every template the text of the value is put in
for the token after the tokens before it are replaced, and the tokens after it are then replaced in
what this gives. In a template of pieces, with a value of pieces, that is the same as to put in a
marker and then to replace it by what the tokens after it make of the value, which is the value
itself if it has no opening brace. -/
theorem render_binding (c : Context) (vars : Dict Json) (contact : Dict String) (x : String)
    (v : Json) :
    (∀ text, render text (c.binding x v) vars contact =
      String.ofList (replaceAll (tokensAfter c vars contact x)
        (replace (replaceAll (tokensBefore c vars x) text.toList) (token ("context.vars." ++ x))
          (varText v)))) ∧
    ∀ segments marker, Marks marker x segments c vars contact →
      (∀ pieces, varText v = write pieces →
        render (write segments) (c.binding x v) vars contact =
          String.ofList (replace
            (render (write segments) (c.binding x (.str marker)) vars contact).toList marker
            (String.ofList (replaceAll (tokensAfter c vars contact x) (varText v).toList)))) ∧
      (opener ∉ (varText v).toList →
        render (write segments) (c.binding x v) vars contact =
          String.ofList (replace
            (render (write segments) (c.binding x (.str marker)) vars contact).toList marker
            (varText v))) := by
  refine ⟨fun text => ?_, fun segments marker hmarks =>
    ⟨fun pieces hv => hmarks.render_binding_eq hv, fun hplain => ?_⟩⟩
  · rw [render_eq_replaceAll, tokens_binding, replaceAll_append, replaceAll_cons]
  · rw [hmarks.render_binding_eq (write_literal hplain).symm, replaceAll_of_not_mem hplain,
      String.ofList_toList]

end Template

namespace Sample

/-- A template with the token of a variable. -/
def greeting : List Template.Segment :=
  [.literal "Hi " (by decide), .token "context.vars.name" (by decide) (by decide),
    .literal "!" (by decide)]

/-- A phone number in the contact data. -/
def hotline : Dict String := .ofList [("phone", "123")]

/-- A name that somebody typed. -/
def typed : Json := .str "\x7bcontact.phone\x7d"

theorem marks_greeting : Template.Marks "#" "name" greeting .empty .empty hotline := by
  have hothers : ∀ name t, Template.Means .empty .empty hotline name t →
      Template.closer ∉ name.toList ∧ Template.opener ∉ t.toList ∧ '#' ∉ t.toList := by
    intro name t h
    cases h with
    | conversation h | subscriber _ h => cases h
    | address hd => cases hd
    | lat | lon =>
      exact ⟨by decide, Template.not_mem_plainText (by decide) (by decide) _,
        Template.not_mem_plainText (by decide) (by decide) _⟩
    | id | firstName | lastName => exact ⟨by decide, by decide, by decide⟩
    | language h => cases h
    | @contact k _ h =>
      have hmem : (k, t) ∈ [("phone", "123")] := Dict.mem_of_findEntry h
      obtain ⟨rfl, rfl⟩ := Prod.mk.inj (List.mem_singleton.mp hmem)
      exact ⟨by decide, by decide, by decide⟩
  exact ⟨by decide, fun name t h _ => ⟨(hothers name t h).1, (hothers name t h).2.1⟩,
    ⟨by decide, by decide⟩, '#', [], by decide, by decide, fun name t h _ => (hothers name t h).2.2⟩

end Sample

namespace Template

/-- The typed token becomes the phone number, as in the marked template. -/
theorem render_binding_greeting :
    render (write Sample.greeting) (Context.empty.binding "name" Sample.typed) .empty
        Sample.hotline = "Hi 123!" := by
  have hv : varText Sample.typed = write [.token "contact.phone" (by decide) (by decide)] := by
    decide +kernel
  rw [((render_binding .empty .empty Sample.hotline "name" Sample.typed).2 _ _
    Sample.marks_greeting).1 _ hv]
  decide +kernel

/-- A value is not put in as it is. -/
theorem value_expanded :
    varText Sample.typed = "\x7bcontact.phone\x7d" ∧
      render "Hi \x7bcontext.vars.name\x7d!" (Context.empty.binding "name" Sample.typed) .empty
        Sample.hotline = "Hi 123!" ∧
      String.ofList (replace (render "Hi \x7bcontext.vars.name\x7d!"
        (Context.empty.binding "name" (.str "#")) .empty Sample.hotline).toList "#"
          (varText Sample.typed)) = "Hi \x7bcontact.phone\x7d!" := by
  decide +kernel

end Template

end Chatflow
