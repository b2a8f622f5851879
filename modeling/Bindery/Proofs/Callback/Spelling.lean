import Bindery.Callback.Site
import Bindery.Proofs.Lists
import Bindery.Proofs.Lowering.Alike
import Bindery.Proofs.Lowering.Members

/-!
# What a signature key tells

A signature key can be taken apart again if no name contains its punctuation: it tells the slot of
the user data, and the pointer kind and the C spelling of each parameter. The spelling of a name
behind pointers and qualifiers tells the type up to the qualifiers. It tells less of arrays, of
pointers to functions and of types without a name, which are spelled like pointers or like each other.
-/

namespace Bindery

open Native (Identity Document DocumentError TypeNode)

open Native.Document (bind_ok)

/-! ## Spellings -/

namespace Native

def TypeNode.spelled? : TypeNode → Option String
  | .fundamental name _ => some ((Fundamental.ofName? name).elim name Fundamental.cName)
  | .enumeration e => some ("enum " ++ e.name)
  | .struct s => some ("struct " ++ s.name)
  | .union s => some ("union " ++ s.name)
  | .typedef t => some t.name
  | _ => none

/-- What separates the parts of a signature key, and marks a pointer. -/
def punctuation : List Char := ['(', ')', ',', ':', '*']

def isClean (text : String) : Bool := text.toList.all fun x => !punctuation.contains x

theorem isClean_iff {text : String} : isClean text = true ↔ ∀ x ∈ text.toList, x ∉ punctuation := by
  simp [isClean]

namespace Document

variable (d : Document)

/-- A name behind the given number of pointers, and any qualifiers. -/
inductive SpelledOut : Identity → (core : Identity) → (stars : Nat) → Prop
  | named {id node name} (hn : d.types.get? id = some node) (hname : node.name? = some name)
      (hne : name ≠ "") : SpelledOut id id 0
  | pointer {id pointee size core stars} (hn : d.types.get? id = some (.pointer pointee size))
      (h : SpelledOut pointee core stars) : SpelledOut id core (stars + 1)
  | qualified {id base core stars} (hn : d.types.get? id = some (.qualified base))
      (h : SpelledOut base core stars) : SpelledOut id core stars

/-- Names that can be told apart: they are free of punctuation, and no two types with a name are
spelled alike, unless both are the same fundamental type. -/
structure Legible : Prop where
  clean : ∀ id node name, d.types.get? id = some node → node.name? = some name → isClean name = true
  distinct : ∀ a b n m name, d.types.get? a = some n → d.types.get? b = some m → n.name? = some name →
    name ≠ "" → n.spelled? = m.spelled? → a = b ∨ ∃ name size, n = .fundamental name size ∧ m = n

variable {d} {a b core core' id : Identity} {stars : Nat}

theorem SpelledOut.node (h : d.SpelledOut id core stars) :
    ∃ node name text, d.types.get? core = some node ∧ node.name? = some name ∧ name ≠ "" ∧
      node.spelled? = some text := by
  induction h with
  | @named id node name hn hname hne =>
    cases node with
    | fundamental | enumeration | struct | union | typedef => exact ⟨_, name, _, hn, hname, hne, rfl⟩
    | _ => cases hname
  | pointer _ _ ih => exact ih
  | qualified _ _ ih => exact ih

theorem cSpellingWithin_named {depth : Nat} {node : TypeNode} {text s : String}
    (hn : d.types.get? id = some node) (ht : node.spelled? = some text)
    (hs : d.cSpellingWithin (depth + 1) id = .ok s) : s = text := by
  obtain ⟨node', hnode, hs⟩ := bind_ok.1 hs
  rw [node_ok, hn] at hnode
  cases hnode
  cases node with
  | fundamental | enumeration | struct | union | typedef =>
    cases ht
    cases hs
    rfl
  | _ => cases ht

theorem cSpellingWithin_qualified {depth : Nat} {base : Identity} {s : String}
    (hn : d.types.get? id = some (.qualified base)) (hs : d.cSpellingWithin (depth + 1) id = .ok s) :
    d.cSpellingWithin depth base = .ok s := by
  obtain ⟨node, hnode, hs⟩ := bind_ok.1 hs
  rw [node_ok, hn] at hnode
  cases hnode
  exact hs

theorem cSpellingWithin_pointer {depth size : Nat} {pointee : Identity} {s : String}
    (hn : d.types.get? id = some (.pointer pointee size)) (hs : d.cSpellingWithin (depth + 1) id = .ok s) :
    (∃ f, d.types.get? pointee = some (.function f)) ∧ s = "void*" ∨
      ∃ t, d.cSpellingWithin depth pointee = .ok t ∧ s = t ++ "*" := by
  obtain ⟨node, hnode, hs⟩ := bind_ok.1 hs
  rw [node_ok, hn] at hnode
  cases hnode
  obtain ⟨target, htarget, hs⟩ := bind_ok.1 hs
  rw [node_ok] at htarget
  split at hs
  · cases hs
    exact .inl ⟨⟨_, htarget⟩, rfl⟩
  · obtain ⟨t, ht, hs⟩ := bind_ok.1 hs
    cases hs
    exact .inr ⟨t, ht, rfl⟩

theorem SpelledOut.not_function (h : d.SpelledOut id core stars) {f : FunctionType}
    (hf : d.types.get? id = some (.function f)) : False := by
  cases h with
  | named hn hname =>
    rw [hf] at hn
    cases hn
    cases hname
  | pointer hn =>
    rw [hf] at hn
    cases hn
  | qualified hn =>
    rw [hf] at hn
    cases hn

theorem SpelledOut.spelling (h : d.SpelledOut id core stars) {depth : Nat} {s : String}
    (hs : d.cSpellingWithin depth id = .ok s) : ∃ node text, d.types.get? core = some node ∧
      node.spelled? = some text ∧ s.toList = text.toList ++ List.replicate stars '*' := by
  induction h generalizing depth s with
  | @named id node name hn hname hne =>
    obtain ⟨node', _, text, hn', -, -, ht⟩ := (SpelledOut.named hn hname hne).node
    cases depth with
    | zero => cases hs
    | succ depth =>
      obtain rfl := cSpellingWithin_named hn' ht hs
      exact ⟨node', s, hn', ht, by simp⟩
  | pointer hn h ih =>
    cases depth with
    | zero => cases hs
    | succ depth =>
      rcases cSpellingWithin_pointer hn hs with ⟨⟨f, hf⟩, -⟩ | ⟨t, ht, rfl⟩
      · exact (h.not_function hf).elim
      · obtain ⟨node, text, hnode, htext, he⟩ := ih ht
        refine ⟨node, text, hnode, htext, ?_⟩
        rw [String.toList_append, he, List.append_assoc, List.replicate_succ']
        rfl
  | qualified hn _ ih =>
    cases depth with
    | zero => cases hs
    | succ depth => exact ih (cSpellingWithin_qualified hn hs)

theorem SpelledOut.alike (h : d.SpelledOut a core stars) (h' : d.SpelledOut b core' stars)
    (hcore : d.Alike core core') : d.Alike a b := by
  induction h generalizing b core' with
  | named hn hname hne =>
    -- only qualifiers can stand before the other name
    generalize hstars : 0 = stars' at h'
    induction h' with
    | named => exact hcore
    | pointer => cases hstars
    | qualified hb _ ih => exact .right hb (ih hcore hstars)
  | @pointer id pointee size core stars hn h ih =>
    clear h
    generalize hstars : stars + 1 = stars' at h'
    induction h' with
    | named => cases hstars
    | pointer hb h' =>
      cases hstars
      exact .pointer hn hb (ih h' hcore)
    | qualified hb _ ih' => exact .right hb (ih' hcore hstars)
  | qualified hn _ ih => exact .left hn (ih h' hcore)

theorem Legible.clean_spelled (hd : d.Legible) {node : TypeNode} {text : String}
    (hn : d.types.get? id = some node) (ht : node.spelled? = some text) {x : Char} (hx : x ∈ text.toList) :
    x ∉ punctuation := by
  have named {name : String} (hname : node.name? = some name) {start : String}
      (hstart : isClean start = true) (hx : x ∈ (start ++ name).toList) : x ∉ punctuation := by
    rw [String.toList_append, List.mem_append] at hx
    rcases hx with hx | hx
    · exact isClean_iff.1 hstart x hx
    · exact isClean_iff.1 (hd.clean id node name hn hname) x hx
  cases node with
  | fundamental name size =>
    cases ht
    cases hf : Fundamental.ofName? name with
    | none =>
      rw [hf] at hx
      exact isClean_iff.1 (hd.clean id _ name hn rfl) x hx
    | some f =>
      rw [hf] at hx
      have hclean : isClean f.cName = true := by cases f <;> decide
      exact isClean_iff.1 hclean x hx
  | enumeration e => cases ht; exact named rfl (by decide) hx
  | struct t => cases ht; exact named rfl (by decide) hx
  | union t => cases ht; exact named rfl (by decide) hx
  | typedef t => cases ht; exact isClean_iff.1 (hd.clean id _ t.name hn rfl) x hx
  | _ => cases ht

theorem Legible.clean_spelling (hd : d.Legible) {depth : Nat} {s : String}
    (hs : d.cSpellingWithin depth id = .ok s) {x : Char} (hx : x ∈ s.toList) (hp : x ∈ punctuation) :
    x = '*' := by
  have pointed {t : String} (ht : x ∈ t.toList → x = '*') (hx : x ∈ (t ++ "*").toList) : x = '*' := by
    rw [String.toList_append, List.mem_append] at hx
    rcases hx with hx | hx
    · exact ht hx
    · exact List.mem_singleton.1 hx
  have untyped (hx : x ∈ "void*".toList) : x = '*' :=
    pointed (fun hx => (isClean_iff.1 (by decide : isClean "void" = true) x hx hp).elim) hx
  induction depth generalizing id s with
  | zero => cases hs
  | succ depth ih =>
    obtain ⟨node, hnode, h⟩ := bind_ok.1 hs
    rw [node_ok] at hnode
    cases node with
    | fundamental | enumeration | struct | union | typedef =>
      obtain rfl := cSpellingWithin_named hnode rfl hs
      exact (hd.clean_spelled hnode rfl hx hp).elim
    | pointer pointee size =>
      rcases cSpellingWithin_pointer hnode hs with ⟨-, rfl⟩ | ⟨t, ht, rfl⟩
      · exact untyped hx
      · exact pointed (ih ht) hx
    | array element length size =>
      obtain ⟨t, ht, h⟩ := bind_ok.1 h
      cases h
      exact pointed (ih ht) hx
    | qualified base => exact ih h hx
    | function | unimplemented | unsupported =>
      cases h
      exact untyped hx

theorem Legible.notMem_spelling (hd : d.Legible) {s : String} (hs : d.cSpelling id = .ok s) {x : Char}
    (hp : x ∈ punctuation) (hne : x ≠ '*') : x ∉ s.toList :=
  fun hx => hne (hd.clean_spelling hs hx hp)

theorem Legible.alike (hd : d.Legible) {stars' : Nat} (h : d.SpelledOut a core stars)
    (h' : d.SpelledOut b core' stars') {s : String} (ha : d.cSpelling a = .ok s)
    (hb : d.cSpelling b = .ok s) : d.Alike a b ∧ stars = stars' ∧ d.types.get? core = d.types.get? core' := by
  obtain ⟨n, name, text, hn, hname, hne, htext⟩ := h.node
  obtain ⟨m, _, text', hm, -, -, htext'⟩ := h'.node
  have spelled {id core : Identity} {stars : Nat} {n : TypeNode} {text : String}
      (h : d.SpelledOut id core stars) (hs : d.cSpelling id = .ok s)
      (hn : d.types.get? core = some n) (ht : n.spelled? = some text) :
      s.toList = text.toList ++ List.replicate stars '*' := by
    obtain ⟨n', t, hn', ht', he⟩ := h.spelling hs
    rw [hn] at hn'
    cases hn'
    rw [ht] at ht'
    cases ht'
    exact he
  have he : text.toList ++ List.replicate stars '*' = text'.toList ++ List.replicate stars' '*' :=
    (spelled h ha hn htext).symm.trans (spelled h' hb hm htext')
  have hclean : '*' ∉ text.toList := fun hx => hd.clean_spelled hn htext hx (by decide)
  have hclean' : '*' ∉ text'.toList := fun hx => hd.clean_spelled hm htext' hx (by decide)
  have hstars : stars = stars' := by
    have := congrArg (List.count '*') he
    simpa [List.count_eq_zero_of_not_mem hclean, List.count_eq_zero_of_not_mem hclean'] using this
  subst hstars
  have hsame : n.spelled? = m.spelled? := by
    rw [htext, htext', String.toList_inj.1 (List.append_cancel_right he)]
  rcases hd.distinct core core' n m name hn hm hname hne hsame with rfl | ⟨_, _, rfl, rfl⟩
  · exact ⟨h.alike h' (.same _), rfl, rfl⟩
  · exact ⟨h.alike h' (.fundamental hn hm), rfl, hn.trans hm.symm⟩

end Document

end Native

/-! ## Keys -/

/-- What stands before the first occurrence of a separator, and what stands behind it. -/
theorem cut_inj {α : Type} {x : α} {l₁ l₂ r₁ r₂ : List α} (h₁ : x ∉ l₁) (h₂ : x ∉ l₂)
    (h : l₁ ++ x :: r₁ = l₂ ++ x :: r₂) : l₁ = l₂ ∧ r₁ = r₂ := by
  induction l₁ generalizing l₂ with
  | nil =>
    cases l₂ with
    | nil => exact ⟨rfl, (List.cons.inj h).2⟩
    | cons y l₂ => exact (h₂ ((List.cons.inj h).1 ▸ List.mem_cons_self)).elim
  | cons y l₁ ih =>
    cases l₂ with
    | nil => exact (h₁ ((List.cons.inj h).1 ▸ List.mem_cons_self)).elim
    | cons z l₂ =>
      obtain ⟨rfl, hrest⟩ := List.cons.inj h
      obtain ⟨rfl, rfl⟩ := ih (mt (List.mem_cons_of_mem _) h₁) (mt (List.mem_cons_of_mem _) h₂) hrest
      exact ⟨rfl, rfl⟩

theorem cut_text {x : Char} {a b s t : String} (ha : x ∉ a.toList) (hb : x ∉ b.toList)
    (h : a ++ (String.singleton x ++ s) = b ++ (String.singleton x ++ t)) : a = b ∧ s = t := by
  have hl := congrArg String.toList h
  simp only [String.toList_append, String.toList_singleton, List.singleton_append] at hl
  obtain ⟨hab, hst⟩ := cut_inj ha hb hl
  exact ⟨String.toList_inj.1 hab, String.toList_inj.1 hst⟩

theorem joined_inj {parts parts' : List String} (h : ∀ t ∈ parts, ',' ∉ t.toList ∧ t ≠ "")
    (h' : ∀ t ∈ parts', ',' ∉ t.toList ∧ t ≠ "") (he : ",".intercalate parts = ",".intercalate parts') :
    parts = parts' := by
  have nonempty {parts : List String} (h : ∀ t ∈ parts, ',' ∉ t.toList ∧ t ≠ "")
      (he : ",".intercalate parts = "") : parts = [] := by
    cases parts with
    | nil => rfl
    | cons t ts =>
      have ht := (h t List.mem_cons_self).2
      cases ts with
      | nil => exact (ht (by simpa using he)).elim
      | cons => simp [ht] at he
  by_cases hnil : parts = []
  · subst hnil
    exact (nonempty h' he.symm).symm
  · have hnil' : parts' ≠ [] := by
      intro hp
      subst hp
      exact hnil (nonempty h he)
    have split {parts : List String} (h : ∀ t ∈ parts, ',' ∉ t.toList ∧ t ≠ "") (hne : parts ≠ []) :
        List.splitOn ',' (",".intercalate parts).toList = parts.map String.toList := by
      rw [String.toList_intercalate]
      refine List.splitOn_intercalate ',' (fun l hl => ?_) (by simpa using hne)
      obtain ⟨t, ht, rfl⟩ := List.mem_map.1 hl
      exact (h t ht).1
    have hsplit := split h hnil
    rw [he, split h' hnil'] at hsplit
    exact (List.map_injective_iff.2 (fun _ _ => String.toList_inj.1) hsplit).symm

theorem mem_joined {parts : List String} {x : Char} (h : x ∈ (",".intercalate parts).toList) :
    x = ',' ∨ ∃ t ∈ parts, x ∈ t.toList := by
  induction parts with
  | nil => simp at h
  | cons t ts ih =>
    by_cases hts : ts = []
    · subst hts
      exact .inr ⟨t, List.mem_cons_self, by simpa using h⟩
    · rw [String.intercalate_cons_of_ne_nil hts, String.toList_append, String.toList_append, List.mem_append,
        List.mem_append] at h
      rcases h with (h | h) | h
      · exact .inr ⟨t, List.mem_cons_self, h⟩
      · exact .inl (List.mem_singleton.1 h)
      · rcases ih h with h | ⟨u, hu, h⟩
        · exact .inl h
        · exact .inr ⟨u, List.mem_cons_of_mem _ hu, h⟩

theorem mapM_ok {ε α β : Type} {f : α → Except ε β} {l : List α} {bs : List β} (h : l.mapM f = .ok bs) :
    List.Forall₂ (fun b a => f a = .ok b) bs l := by
  induction l generalizing bs with
  | nil =>
    cases h
    exact .nil
  | cons a l ih =>
    rw [List.mapM_cons] at h
    obtain ⟨b, hb, h⟩ := bind_ok.1 h
    obtain ⟨bs', hbs, h⟩ := bind_ok.1 h
    cases h
    exact .cons hb (ih hbs)

namespace CallbackSite

theorem kindLabel_inj {k k' : Native.PointerKind} (h : kindLabel k = kindLabel k') : k = k' := by
  revert h
  cases k <;> cases k' <;> decide

variable {d : Document} {site site' : CallbackSite} {key : String}

structure SpelledAlike (d : Document) (a a' : Native.Argument) : Prop where
  kind : a.kind = a'.kind
  spelling : ∃ s, d.cSpelling a.type = .ok s ∧ d.cSpelling a'.type = .ok s

def Part (d : Document) (part : String) (a : Native.Argument) : Prop :=
  ∃ s, d.cSpelling a.type = .ok s ∧ part = s ++ (String.singleton ':' ++ kindLabel a.kind)

theorem signatureKey_ok (h : site.signatureKey d = .ok key) : ∃ f parts result,
    d.functionType site.functionType = .ok f ∧ List.Forall₂ (Part d) parts f.arguments ∧
      d.cSpelling f.returns = .ok result ∧
      key = result ++ (String.singleton '(' ++ (",".intercalate parts ++
        (String.singleton ')' ++ ("@" ++ toString site.callbackDataIndex)))) := by
  obtain ⟨f, hf, h⟩ := bind_ok.1 h
  obtain ⟨parts, hparts, h⟩ := bind_ok.1 h
  obtain ⟨result, hresult, h⟩ := bind_ok.1 h
  cases h
  refine ⟨f, parts, result, hf, (mapM_ok hparts).imp fun part a hpart => ?_, hresult, ?_⟩
  · obtain ⟨s, hs, hpart⟩ := bind_ok.1 hpart
    cases hpart
    exact ⟨s, hs, by rw [String.append_assoc]; rfl⟩
  · simp only [String.append_assoc]
    rfl

theorem Part.clean (hd : d.Legible) {part : String} {a : Native.Argument} (h : Part d part a) :
    (',' ∉ part.toList ∧ part ≠ "") ∧ ')' ∉ part.toList := by
  obtain ⟨s, hs, rfl⟩ := h
  have label : (String.singleton ':' ++ kindLabel a.kind).toList.contains ',' = false ∧
      (String.singleton ':' ++ kindLabel a.kind).toList.contains ')' = false := by
    cases a.kind <;> decide
  simp only [List.contains_eq_mem, decide_eq_false_iff_not] at label
  have chars {x : Char} (hx : x ∈ (s ++ (String.singleton ':' ++ kindLabel a.kind)).toList)
      (hp : x ∈ Native.punctuation) (hne : x ≠ '*') :
      x ∈ (String.singleton ':' ++ kindLabel a.kind).toList := by
    rw [String.toList_append, List.mem_append] at hx
    exact hx.resolve_left (hd.notMem_spelling hs hp hne)
  refine ⟨⟨fun hx => ?_, by simp⟩, fun hx => ?_⟩
  · exact label.1 (chars hx (by decide) (by decide))
  · exact label.2 (chars hx (by decide) (by decide))

theorem Part.spelledAlike (hd : d.Legible) {part : String} {a a' : Native.Argument} (h : Part d part a)
    (h' : Part d part a') : SpelledAlike d a a' := by
  obtain ⟨s, hs, hpart⟩ := h
  obtain ⟨s', hs', hpart'⟩ := h'
  have colon := hd.notMem_spelling hs (x := ':') (by decide) (by decide)
  have colon' := hd.notMem_spelling hs' (x := ':') (by decide) (by decide)
  obtain ⟨rfl, hkind⟩ := cut_text colon colon' (hpart.symm.trans hpart')
  exact ⟨kindLabel_inj hkind, s, hs, hs'⟩

theorem signatureKey_inj (hd : d.Legible) (h : site.signatureKey d = .ok key)
    (h' : site'.signatureKey d = .ok key) : ∃ f f', d.functionType site.functionType = .ok f ∧
      d.functionType site'.functionType = .ok f' ∧ site.callbackDataIndex = site'.callbackDataIndex ∧
      List.Forall₂ (SpelledAlike d) f.arguments f'.arguments ∧
      ∃ s, d.cSpelling f.returns = .ok s ∧ d.cSpelling f'.returns = .ok s := by
  obtain ⟨f, parts, result, hf, hparts, hresult, he⟩ := signatureKey_ok h
  obtain ⟨f', parts', result', hf', hparts', hresult', he'⟩ := signatureKey_ok h'
  have opening := hd.notMem_spelling hresult (x := '(') (by decide) (by decide)
  have opening' := hd.notMem_spelling hresult' (x := '(') (by decide) (by decide)
  have closing {parts : List String} {as : List Native.Argument} (h : List.Forall₂ (Part d) parts as) :
      (∀ t ∈ parts, ',' ∉ t.toList ∧ t ≠ "") ∧ ')' ∉ (",".intercalate parts).toList := by
    have clean : ∀ t ∈ parts, (',' ∉ t.toList ∧ t ≠ "") ∧ ')' ∉ t.toList := by
      intro t ht
      obtain ⟨_, -, hpart⟩ := exists_partner h ht
      exact hpart.clean hd
    refine ⟨fun t ht => (clean t ht).1, fun hx => ?_⟩
    rcases mem_joined hx with hx | ⟨t, ht, hx⟩
    · cases hx
    · exact (clean t ht).2 hx
  obtain ⟨hclean, hclosing⟩ := closing hparts
  obtain ⟨hclean', hclosing'⟩ := closing hparts'
  obtain ⟨rfl, hrest⟩ := cut_text opening opening' (he.symm.trans he')
  obtain ⟨hjoined, hslot⟩ := cut_text hclosing hclosing' hrest
  obtain rfl := joined_inj hclean hclean' hjoined
  refine ⟨f, f', hf, hf', LoweringContext.toString_inj ((String.append_right_inj _).1 hslot), ?_, result,
    hresult, hresult'⟩
  rw [List.forall₂_iff_get] at hparts hparts' ⊢
  refine ⟨hparts.1.symm.trans hparts'.1, fun i hi hi' => ?_⟩
  have hpart : i < parts.length := hparts.1 ▸ hi
  exact (hparts.2 i hpart hi).spelledAlike hd (hparts'.2 i hpart hi')

end CallbackSite

end Bindery
