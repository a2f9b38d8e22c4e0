import Chatflow.Proofs.Rendering.Template

/-!
# Flat templates

Most templates are written in pieces (`Template.Segment`): text without an opening brace, and tokens
whose names have no braces. In such a template one token is replaced piece by piece
(`Template.replace_write`), and if no brace comes in by its text the pieces are pieces again. So by
induction on the list of tokens the order of the replacements does not matter: all tokens are
replaced at once (`Template.replaceAll_write`).
-/

namespace Chatflow

namespace Template

/-! ### Pieces -/

/-- A piece of a template. -/
inductive Segment where
  /-- Text without an opening brace. -/
  | literal (text : String) (unopened : opener ∉ text.toList)
  /-- A token whose name has no braces. -/
  | token (name : String) (unopened : opener ∉ name.toList) (unclosed : closer ∉ name.toList)

/-- The text of a piece. -/
def Segment.text : Segment → String
  | .literal text _ => text
  | .token name _ _ => Template.token name

/-- The template of some pieces. -/
def write (segments : List Segment) : String := String.join (segments.map Segment.text)

theorem toList_write_append (segments segments' : List Segment) :
    (write (segments ++ segments')).toList =
      (write segments).toList ++ (write segments').toList := by
  simp [write]

@[simp]
theorem toList_write_singleton (p : Segment) : (write [p]).toList = p.text.toList := by
  simp [write]

theorem write_literal {text : String} (unopened : opener ∉ text.toList) :
    write [.literal text unopened] = text :=
  String.toList_injective (toList_write_singleton _)

theorem toList_write_cons (p : Segment) (segments : List Segment) :
    (write (p :: segments)).toList = p.text.toList ++ (write segments).toList := by
  rw [← List.singleton_append, toList_write_append, toList_write_singleton]

/-! ### Replacing one token -/

variable {name value : String}

/-- Of two tokens, one in a text, neither begins like the other unless they are the same. -/
theorem eq_of_token_begins {name' : String} {post : List Char} (hname' : closer ∉ name'.toList)
    (h : closer ∉ name.toList ∨ closer ∉ post)
    (hbegins : (token name).toList <+: (token name').toList ++ post) : name = name' := by
  obtain ⟨rest, hrest⟩ := hbegins
  rw [toList_token, toList_token] at hrest
  simp only [List.cons_append, List.append_assoc, List.cons.injEq, true_and] at hrest
  refine String.toList_injective ?_
  obtain hname | hpost := h
  · -- both names end at the first closing brace
    have hsplit := congrArg (List.splitOn closer) hrest
    rw [List.nil_append, List.nil_append, List.splitOn_append_cons_self_of_not_mem hname,
      List.splitOn_append_cons_self_of_not_mem hname'] at hsplit
    exact (List.cons.inj hsplit).1
  · exact ((List.append_cons_inj_of_notMem hname' hpost).mp hrest.symm).1.symm

/-- What takes the place of a piece when a token is replaced by some pieces. -/
def Segment.put (name : String) (image : List Segment) : Segment → List Segment
  | .literal text unopened => [.literal text unopened]
  | .token name' unopened unclosed =>
    if name' = name then image else [.token name' unopened unclosed]

/-- **A token is replaced piece by piece.** -/
theorem replace_write (hname : closer ∉ name.toList) (image segments : List Segment) :
    replace (write segments).toList (token name) (write image) =
      (write (segments.flatMap (Segment.put name image))).toList := by
  induction segments with
  | nil => rfl
  | cons p segments ih =>
    rw [replace, toList_token] at ih
    rw [List.flatMap_cons, toList_write_cons, toList_write_append, ← ih, replace, toList_token]
    cases p with
    | literal text unopened =>
      rw [Segment.put, toList_write_singleton]
      exact replaceFrom_append unopened _
    | token name' unopened unclosed =>
      rw [Segment.text, Segment.put]
      split
      · rename_i heq
        rw [heq, toList_token, replaceFrom_of_begins]
      · rename_i hne
        have hother : ¬ (token name).toList <+: (token name').toList ++ (write segments).toList :=
          fun hbegins => hne (eq_of_token_begins unclosed (.inl hname) hbegins).symm
        have hrest : opener ∉ name'.toList ++ [closer] := by
          rw [List.mem_append, not_or]
          exact ⟨unopened, by decide⟩
        rw [toList_token, toList_token, List.cons_append] at hother
        rw [toList_token, List.cons_append, replaceFrom_of_not_begins hother,
          replaceFrom_append hrest, toList_write_singleton, Segment.text, toList_token,
          List.cons_append]

/-! ### Replacing all tokens -/

/-- What some tokens with their texts make of a piece. -/
def Segment.expand (ts : List (String × String)) : Segment → String
  | .literal text _ => text
  | .token name _ _ => (Dict.findEntry name ts).getD (Template.token name)

theorem Segment.expand_nil : Segment.expand [] = Segment.text := by
  funext p
  cases p <;> rfl

/-- What some tokens with their texts make of pieces, one after the other. -/
def expandAll (ts : List (String × String)) (segments : List Segment) : String :=
  String.join (segments.map (Segment.expand ts))

theorem toList_expandAll_append (ts : List (String × String)) (segments segments' : List Segment) :
    (expandAll ts (segments ++ segments')).toList =
      (expandAll ts segments).toList ++ (expandAll ts segments').toList := by
  simp [expandAll]

@[simp]
theorem toList_expandAll_singleton (ts : List (String × String)) (p : Segment) :
    (expandAll ts [p]).toList = (p.expand ts).toList := by
  simp [expandAll]

/-- A token that becomes text is one token more. -/
theorem Segment.map_expand_put (hvalue : opener ∉ value.toList) (ts : List (String × String))
    (p : Segment) :
    (p.put name [.literal value hvalue]).map (expand ts) = [p.expand ((name, value) :: ts)] := by
  cases p with
  | literal text unopened => rfl
  | token name' unopened unclosed =>
    rw [put, expand, Dict.findEntry]
    split <;> rfl

/-- Some tokens with their texts bring no brace in. -/
def Flat (ts : List (String × String)) : Prop :=
  ∀ t ∈ ts, closer ∉ t.1.toList ∧ opener ∉ t.2.toList

/-- After some tokens were replaced there are pieces again, of which other tokens make what all of
them together make of the pieces before. -/
theorem exists_replaceAll_write {ts : List (String × String)} (hts : Flat ts)
    (segments : List Segment) : ∃ segments',
      replaceAll ts (write segments).toList = (write segments').toList ∧
      ∀ ts', segments'.map (Segment.expand ts') = segments.map (Segment.expand (ts ++ ts')) := by
  induction ts generalizing segments with
  | nil => exact ⟨segments, rfl, fun _ => rfl⟩
  | cons t ts ih =>
    obtain ⟨hname, hvalue⟩ := hts t List.mem_cons_self
    obtain ⟨segments', hfold, hexpand⟩ := ih (fun t ht => hts t (List.mem_cons_of_mem _ ht))
      (segments.flatMap (Segment.put t.1 [.literal t.2 hvalue]))
    refine ⟨segments', ?_, fun ts' => ?_⟩
    · rw [replaceAll_cons, ← hfold, ← replace_write hname, write_literal]
    · rw [hexpand, List.map_flatMap]
      simp only [Segment.map_expand_put]
      exact List.map_eq_flatMap.symm

/-- **All tokens are replaced at once**, if no brace comes in by a text. -/
theorem replaceAll_write {ts : List (String × String)} (hts : Flat ts)
    (segments : List Segment) :
    replaceAll ts (write segments).toList = (expandAll ts segments).toList := by
  obtain ⟨segments', hfold, hexpand⟩ := exists_replaceAll_write hts segments
  have hall := hexpand []
  rw [Segment.expand_nil, List.append_nil] at hall
  rw [hfold, write, hall, expandAll]

end Template

end Chatflow
