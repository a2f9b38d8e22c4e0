import Chatflow.Proofs.Dict
import Chatflow.Rendering.Template

/-!
# What a token becomes

The tokens are replaced one after the other throughout a text, so what becomes of one depends on
all of them. Two tokens that differ early (`Template.Apart`) do not disturb each other, and those of
the user are apart from all others. So where no other brace stands, a token of the user becomes the
field that it names (`Template.render_userToken`).
-/

namespace Chatflow

/-! ### Replacing -/

namespace Template

variable {c : Char} {word image l pre post : List Char}

theorem replaceFrom_skip (word image : List Char) (skip : Nat) (l : List Char) :
    replaceFrom word image skip l = replaceFrom word image 0 (l.drop skip) := by
  induction skip generalizing l with
  | zero => rfl
  | succ skip ih =>
    cases l with
    | nil => rfl
    | cons _ l => exact ih l

/-- What comes before the first character of a word stays. -/
theorem replaceFrom_append (h : c ∉ pre) (l : List Char) :
    replaceFrom (c :: word) image 0 (pre ++ l) = pre ++ replaceFrom (c :: word) image 0 l := by
  induction pre with
  | nil => rfl
  | cons d pre ih =>
    obtain ⟨hd, hpre⟩ := not_or.mp (mt List.mem_cons.mpr h)
    have hbegins : (c :: word).isPrefixOf (d :: (pre ++ l)) = false := by
      simp [List.isPrefixOf, hd]
    rw [List.cons_append, replaceFrom, if_neg (by simp [hbegins]), ih hpre, List.cons_append]

/-- A text without the first character of a word stays. -/
theorem replaceFrom_of_not_mem (h : c ∉ l) : replaceFrom (c :: word) image 0 l = l := by
  have happend : replaceFrom (c :: word) image 0 (l ++ []) = l ++ [] := replaceFrom_append h []
  rwa [List.append_nil] at happend

/-- The word itself is replaced. -/
theorem replaceFrom_of_begins (post : List Char) :
    replaceFrom (c :: word) image 0 (c :: word ++ post) =
      image ++ replaceFrom (c :: word) image 0 post := by
  have hbegins : (c :: word).isPrefixOf (c :: (word ++ post)) = true :=
    List.isPrefixOf_iff_prefix.mpr (List.prefix_append (c :: word) post)
  rw [List.cons_append, replaceFrom, if_pos hbegins, replaceFrom_skip, List.length_cons,
    Nat.add_sub_cancel, List.drop_left]

/-- Where another word begins the first character stays. -/
theorem replaceFrom_of_not_begins (h : ¬ c :: word <+: c :: l) :
    replaceFrom (c :: word) image 0 (c :: l) = c :: replaceFrom (c :: word) image 0 l := by
  rw [replaceFrom, if_neg fun hbegins => h (List.isPrefixOf_iff_prefix.mp hbegins)]

/-! ### Tokens that are apart -/

/-- The character that a token begins with. -/
def opener : Char := '\x7b'

/-- The character that a token ends with. -/
def closer : Char := '\x7d'

theorem toList_token (name : String) :
    (token name).toList = opener :: (name.toList ++ [closer]) := by
  rw [token, String.toList_append, String.toList_append]
  rfl

/-- A character of neither part is none of a name. -/
theorem not_mem_toList_append {m : Char} {group key : String} (hgroup : m ∉ group.toList)
    (hkey : m ∉ key.toList) : m ∉ (group ++ key).toList := by
  rw [String.toList_append, List.mem_append, not_or]
  exact ⟨hgroup, hkey⟩

/-- The token of one name does not begin as that of another does. -/
def Apart (name name' : String) : Prop :=
  ∀ post : List Char, ¬ (token name).toList <+: (token name').toList ++ post

/-- Names that differ early have tokens that are apart. -/
theorem apart_of_differ {name name' : String} {a b : List Char} (ha : a <+: name.toList)
    (hb : b <+: name'.toList) (hlength : a.length = b.length) (hne : a ≠ b) :
    Apart name name' := by
  intro post hbegins
  obtain ⟨l, hl⟩ := ha
  obtain ⟨m, hm⟩ := hb
  obtain ⟨rest, hrest⟩ := hbegins
  rw [toList_token, toList_token, ← hl, ← hm] at hrest
  simp only [List.cons_append, List.append_assoc, List.cons.injEq, true_and] at hrest
  exact hne (List.append_inj_left hrest hlength)

/-- Names that differ early are not the same. -/
theorem ne_of_differ {name name' : String} {a b : List Char} (ha : a <+: name.toList)
    (hb : b <+: name'.toList) (hlength : a.length = b.length) (hne : a ≠ b) : name ≠ name' := by
  rintro rfl
  exact apart_of_differ ha hb hlength hne [] (List.prefix_append _ _)

/-! ### Several tokens -/

/-- A text with some tokens replaced, one after the other. -/
def replaceAll (ts : List (String × String)) (text : List Char) : List Char :=
  ts.foldl (fun text t => replace text (token t.1) t.2) text

variable {name value : String} {ts : List (String × String)}

theorem replaceAll_cons (t : String × String) (ts : List (String × String)) (l : List Char) :
    replaceAll (t :: ts) l = replaceAll ts (replace l (token t.1) t.2) := rfl

theorem replaceAll_append (ts ts' : List (String × String)) (l : List Char) :
    replaceAll (ts ++ ts') l = replaceAll ts' (replaceAll ts l) :=
  List.foldl_append

theorem render_eq_replaceAll (text : String) (c : Context) (vars : Dict Json)
    (contact : Dict String) : render text c vars contact =
      String.ofList (replaceAll (tokens c vars contact) text.toList) := rfl

theorem replaceAll_of_not_mem (h : opener ∉ l) (ts : List (String × String)) :
    replaceAll ts l = l := by
  induction ts with
  | nil => rfl
  | cons t ts ih => rwa [replaceAll_cons, replace, toList_token, replaceFrom_of_not_mem h]

/-- **A token at which no other begins** becomes its value, if no other brace is around. -/
theorem replaceAll_token
    (hother : ∀ t ∈ ts, t = (name, value) ∨ ¬(token t.1).toList <+: (token name).toList ++ post)
    (hmem : (name, value) ∈ ts) (hpre : opener ∉ pre) (hpost : opener ∉ post)
    (hvalue : opener ∉ value.toList) (hname : opener ∉ name.toList) :
    replaceAll ts (pre ++ (token name).toList ++ post) = pre ++ value.toList ++ post := by
  have hrest : opener ∉ name.toList ++ [closer] ++ post := by
    simp only [List.mem_append, not_or]
    exact ⟨⟨hname, by decide⟩, hpost⟩
  induction ts with
  | nil => cases hmem
  | cons t ts ih =>
    rw [replaceAll_cons, replace, List.append_assoc]
    obtain rfl | ht := hother t List.mem_cons_self
    · -- the token is replaced, and then there is no brace left
      rw [toList_token, replaceFrom_append hpre, replaceFrom_of_begins,
        replaceFrom_of_not_mem hpost, replaceAll_of_not_mem, List.append_assoc]
      simp only [List.mem_append, not_or]
      exact ⟨hpre, hvalue, hpost⟩
    · -- another token is not found
      have hbegins := ht
      rw [toList_token, toList_token, List.cons_append] at hbegins
      rw [toList_token, toList_token, replaceFrom_append hpre, List.cons_append,
        replaceFrom_of_not_begins hbegins, replaceFrom_of_not_mem hrest, ← List.cons_append,
        ← toList_token, ← List.append_assoc]
      refine ih (fun t ht => hother t (List.mem_cons_of_mem _ ht)) ?_
      obtain rfl | hmem := List.mem_cons.mp hmem
      · exact absurd (List.prefix_append _ post) ht
      · exact hmem

end Template

/-! ### The user -/

namespace UserSnapshot

/-- The names of the fields of a snapshot. -/
def names : List String := ["id", "first_name", "last_name", "language"]

variable {u : UserSnapshot} {k v : String}

theorem find?_fields_id (u : UserSnapshot) : u.fields.find? "id" = some u.id := by
  rw [fields, Dict.find?_ofList]
  cases u.language <;> rfl

theorem find?_fields_firstName (u : UserSnapshot) :
    u.fields.find? "first_name" = some u.firstName := by
  rw [fields, Dict.find?_ofList]
  cases u.language <;> rfl

theorem find?_fields_lastName (u : UserSnapshot) :
    u.fields.find? "last_name" = some u.lastName := by
  rw [fields, Dict.find?_ofList]
  cases u.language <;> rfl

theorem find?_fields_language (u : UserSnapshot) : u.fields.find? "language" = u.language := by
  rw [fields, Dict.find?_ofList]
  cases u.language <;> rfl

theorem mem_names_of_find? (h : u.fields.find? k = some v) : k ∈ names := by
  rw [fields, Dict.find?_ofList] at h
  have hmem := List.mem_reverse.mp (Dict.mem_of_findEntry h)
  cases hl : u.language with
  | none =>
    rw [hl] at hmem
    simp only [List.append_nil, List.mem_cons, List.not_mem_nil, Prod.mk.injEq] at hmem
    simp only [names, List.mem_cons]
    tauto
  | some language =>
    rw [hl] at hmem
    simp only [List.cons_append, List.nil_append, List.mem_cons, List.not_mem_nil,
      Prod.mk.injEq] at hmem
    simp only [names, List.mem_cons]
    tauto

end UserSnapshot

namespace Template

variable {u : UserSnapshot} {k v : String}

theorem mem_userTokens {t : String × String} :
    t ∈ userTokens u ↔ ∃ k v, u.fields.find? k = some v ∧ t = ("context.user." ++ k, v) := by
  rw [userTokens, List.mem_map]
  constructor
  · rintro ⟨e, he, rfl⟩
    exact ⟨e.1, e.2, Dict.findEntry_of_mem u.fields.sorted he, rfl⟩
  · rintro ⟨k, v, h, rfl⟩
    exact ⟨(k, v), Dict.mem_of_findEntry h, rfl⟩

/-- The name of a token begins as its group does. -/
theorem prefix_toList_append {a : List Char} {group : String} (h : a <+: group.toList)
    (key : String) : a <+: (group ++ key).toList := by
  rw [String.toList_append]
  exact h.trans (List.prefix_append _ _)

section

variable {c : Context} {vars : Dict Json} {l : UserLocation} {contact : Dict String}
  {t : String × String}

theorem begins_of_mem_varTokens (ht : t ∈ varTokens c vars) :
    "context.vars.".toList <+: t.1.toList := by
  obtain ⟨x, -, rfl⟩ := List.mem_map.mp ht
  exact prefix_toList_append (List.prefix_refl _) _

theorem begins_of_mem_placeTokens (ht : t ∈ placeTokens l) :
    "context.user_location.".toList <+: t.1.toList := by
  rw [placeTokens, List.mem_append] at ht
  obtain haddress | hcoordinate := ht
  · obtain ⟨x, -, rfl⟩ := List.mem_map.mp haddress
    exact prefix_toList_append (by decide) _
  · have hlat : "context.user_location.".toList <+: "context.user_location.lat".toList := by decide
    have hlon : "context.user_location.".toList <+: "context.user_location.lon".toList := by decide
    simp only [List.mem_cons, List.not_mem_nil, or_false] at hcoordinate
    obtain rfl | rfl := hcoordinate
    · exact hlat
    · exact hlon

theorem begins_of_mem_userTokens (ht : t ∈ userTokens u) :
    "context.user.".toList <+: t.1.toList := by
  obtain ⟨x, -, rfl⟩ := List.mem_map.mp ht
  exact prefix_toList_append (List.prefix_refl _) _

theorem begins_of_mem_contactTokens (ht : t ∈ contactTokens contact) :
    "contact.".toList <+: t.1.toList := by
  obtain ⟨x, -, rfl⟩ := List.mem_map.mp ht
  exact prefix_toList_append (List.prefix_refl _) _

end

/-- The fields of the user have tokens that are apart. -/
theorem apart_userTokens {k k' : String} (hk : k ∈ UserSnapshot.names)
    (hk' : k' ∈ UserSnapshot.names) (hne : k ≠ k') :
    Apart ("context.user." ++ k) ("context.user." ++ k') := by
  have hdiffer : ∀ k ∈ UserSnapshot.names, ∀ k' ∈ UserSnapshot.names, k ≠ k' → ∃ n < 4,
      (k.toList.take n).length = (k'.toList.take n).length ∧
        k.toList.take n ≠ k'.toList.take n := by decide
  obtain ⟨n, -, hlength, htake⟩ := hdiffer k hk k' hk' hne
  have hbegins : ∀ key : String, "context.user.".toList ++ key.toList.take n <+:
      ("context.user." ++ key).toList := by
    intro key
    rw [String.toList_append]
    exact List.prefix_append_right_inj _ |>.mpr (List.take_prefix _ _)
  refine apart_of_differ (hbegins k) (hbegins k') ?_ fun heq => htake (List.append_cancel_left heq)
  rw [List.length_append, List.length_append, hlength]

/-- A token of the user is apart from all others. -/
theorem apart_tokens {c : Context} {vars : Dict Json} {contact : Dict String}
    (h : c.user.fields.find? k = some v) :
    ∀ t ∈ tokens c vars contact,
      t = ("context.user." ++ k, v) ∨ Apart t.1 ("context.user." ++ k) := by
  have huser : ∀ {a : List Char}, a <+: "context.user.".toList →
      a <+: ("context.user." ++ k).toList := fun ha => prefix_toList_append ha k
  intro t ht
  simp only [tokens, List.mem_append] at ht
  obtain ((hvar | hplace) | hfield) | hcontact := ht
  · have hname : "context.v".toList <+: t.1.toList :=
      List.IsPrefix.trans (by decide) (begins_of_mem_varTokens hvar)
    exact .inr (apart_of_differ hname (huser (a := "context.u".toList) (by decide)) (by decide)
      (by decide))
  · have hname : "context.user_".toList <+: t.1.toList :=
      List.IsPrefix.trans (by decide) (begins_of_mem_placeTokens hplace)
    exact .inr (apart_of_differ hname (huser (List.prefix_refl _)) (by decide) (by decide))
  · obtain ⟨k', v', h', rfl⟩ := mem_userTokens.mp hfield
    by_cases hk : k' = k
    · subst hk
      rw [h] at h'
      exact .inl (by rw [Option.some.inj h'])
    · exact .inr (apart_userTokens (UserSnapshot.mem_names_of_find? h')
        (UserSnapshot.mem_names_of_find? h) hk)
  · have hname : "conta".toList <+: t.1.toList :=
      List.IsPrefix.trans (by decide) (begins_of_mem_contactTokens hcontact)
    exact .inr (apart_of_differ hname (huser (a := "conte".toList) (by decide)) (by decide)
      (by decide))

/-- **A token of the user becomes the field that it names**, if no other brace is around. -/
theorem render_userToken {c : Context} (h : c.user.fields.find? k = some v) {pre post : String}
    (hpre : opener ∉ pre.toList) (hpost : opener ∉ post.toList) (hv : opener ∉ v.toList)
    (vars : Dict Json) (contact : Dict String) :
    render (pre ++ token ("context.user." ++ k) ++ post) c vars contact = pre ++ v ++ post := by
  have hmem : ("context.user." ++ k, v) ∈ tokens c vars contact := by
    simp only [tokens, List.mem_append]
    exact .inl (.inr (mem_userTokens.mpr ⟨k, v, h, rfl⟩))
  have hname : opener ∉ ("context.user." ++ k).toList := by
    have hnames : ∀ k ∈ UserSnapshot.names, opener ∉ k.toList := by decide
    exact not_mem_toList_append (by decide) (hnames k (UserSnapshot.mem_names_of_find? h))
  rw [render_eq_replaceAll, String.toList_append, String.toList_append,
    replaceAll_token (fun t ht => (apart_tokens h t ht).imp_right (· _)) hmem hpre hpost hv hname]
  simp only [String.ofList_append, String.ofList_toList]

end Template

end Chatflow
