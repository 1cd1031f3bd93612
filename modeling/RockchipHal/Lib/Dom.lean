import Mathlib.Data.List.Basic

/-!
# Document trees edited in place

A document is its list of top-level nodes.  A program that reaches a node by the names on
the way to it and changes it there changes the first node of each list that fits
(`updateFirst`), and rebuilds the nodes above it (`onChild`, `onRoot`).  For edits that
keep a node's name (`InPlace`):

    what is looked up where the edit was made is the edited node   (find?_updateFirst_self)
    what is looked up elsewhere is the same as before              (find?_updateFirst_ne)
    edits in different places may change order                     (updateFirst_comm)

The trees themselves are a parameter: `Dom N` is what an XML library offers for nodes of
type `N`.  `XmlNode` is one such type, on which lookups and edits compute.
-/

namespace RockchipHal

/-! ## Changing the first entry that fits -/

section

variable {α : Type}

/-- Changes the first entry with `p`; `none` when there is none, or the change fails. -/
def updateFirst (p : α → Bool) (f : α → Option α) : List α → Option (List α)
  | [] => none
  | a :: l => if p a then (f a).map (· :: l) else (updateFirst p f l).map (a :: ·)

variable {p q : α → Bool} {f g : α → Option α}

theorem updateFirst_pos {a : α} (h : p a = true) (l : List α) :
    updateFirst p f (a :: l) = (f a).map (· :: l) := by
  rw [updateFirst, if_pos h]

theorem updateFirst_neg {a : α} (h : p a = false) (l : List α) :
    updateFirst p f (a :: l) = (updateFirst p f l).map (a :: ·) := by
  rw [updateFirst, if_neg (ne_true_of_eq_false h)]

/-- It fails exactly when the entry that is found has no change. -/
theorem updateFirst_isSome (l : List α) :
    (updateFirst p f l).isSome = ((l.find? p).bind f).isSome := by
  induction l with
  | nil => rfl
  | cons a l ih =>
    cases ha : p a with
    | true => rw [updateFirst_pos ha, List.find?_cons_of_pos ha, Option.isSome_map]; rfl
    | false =>
      rw [updateFirst_neg ha, List.find?_cons_of_neg (ne_true_of_eq_false ha),
        Option.isSome_map, ih]

/-- The change keeps `p`, as it does when `p` looks at a name only. -/
def Keeps (p : α → Bool) (f : α → Option α) : Prop := ∀ a b, f a = some b → p b = p a

/-- A lookup at the place of the edit. -/
theorem updateFirst_bind_find? (hf : Keeps p f) (l : List α) :
    (updateFirst p f l).bind (List.find? p) = (l.find? p).bind f := by
  induction l with
  | nil => rfl
  | cons a l ih =>
    cases ha : p a with
    | true =>
      rw [updateFirst_pos ha, List.find?_cons_of_pos ha]
      cases hb : f a with
      | none => exact hb.symm
      | some b =>
        have hpb : p b = true := (hf a b hb).trans ha
        exact (List.find?_cons_of_pos hpb).trans hb.symm
    | false =>
      have hna : ¬ p a = true := ne_true_of_eq_false ha
      rw [updateFirst_neg ha, List.find?_cons_of_neg hna, ← ih]
      cases updateFirst p f l with
      | none => rfl
      | some r => exact List.find?_cons_of_neg hna

theorem find?_updateFirst_self (hf : Keeps p f) {l l' : List α}
    (h : updateFirst p f l = some l') : l'.find? p = (l.find? p).bind f := by
  rw [← updateFirst_bind_find? hf l, h]
  rfl

/-- A lookup that never stops at a node the edit stops at. -/
theorem find?_updateFirst_ne (hf : Keeps q f) (hd : ∀ a, p a = true → q a = false)
    {l l' : List α} (h : updateFirst p f l = some l') : l'.find? q = l.find? q := by
  induction l generalizing l' with
  | nil => cases h
  | cons a l ih =>
    cases ha : p a with
    | true =>
      rw [updateFirst_pos ha] at h
      obtain ⟨b, hb, rfl⟩ := Option.map_eq_some_iff.mp h
      have hqa : q a = false := hd a ha
      have hqb : q b = false := (hf a b hb).trans hqa
      rw [List.find?_cons_of_neg (ne_true_of_eq_false hqb),
        List.find?_cons_of_neg (ne_true_of_eq_false hqa)]
    | false =>
      rw [updateFirst_neg ha] at h
      obtain ⟨r, hr, rfl⟩ := Option.map_eq_some_iff.mp h
      rw [List.find?_cons, List.find?_cons, ih hr]

/-- The list from the place of the edit on. -/
theorem dropWhile_updateFirst (hf : Keeps p f) {l l' : List α} (h : updateFirst p f l = some l') :
    ∃ a b rest, f a = some b ∧ (l.dropWhile fun x => !p x) = a :: rest ∧
      (l'.dropWhile fun x => !p x) = b :: rest := by
  induction l generalizing l' with
  | nil => cases h
  | cons a l ih =>
    cases ha : p a with
    | true =>
      rw [updateFirst_pos ha] at h
      obtain ⟨b, hb, rfl⟩ := Option.map_eq_some_iff.mp h
      have hpb : p b = true := (hf a b hb).trans ha
      exact ⟨a, b, l, hb, List.dropWhile_cons_of_neg (by rw [ha]; exact Bool.false_ne_true),
        List.dropWhile_cons_of_neg (by rw [hpb]; exact Bool.false_ne_true)⟩
    | false =>
      rw [updateFirst_neg ha] at h
      obtain ⟨r, hr, rfl⟩ := Option.map_eq_some_iff.mp h
      have hskip : ∀ k : List α, ((a :: k).dropWhile fun x => !p x) = k.dropWhile fun x => !p x :=
        fun k => List.dropWhile_cons_of_pos (by rw [ha]; rfl)
      rw [hskip, hskip]
      exact ih hr

/-- Two edits in a row at the same place. -/
theorem updateFirst_bind (hf : Keeps p f) (l : List α) :
    (updateFirst p f l).bind (updateFirst p g) = updateFirst p (fun a => (f a).bind g) l := by
  induction l with
  | nil => rfl
  | cons a l ih =>
    cases ha : p a with
    | true =>
      rw [updateFirst_pos ha, updateFirst_pos ha]
      cases hb : f a with
      | none => rfl
      | some b => exact updateFirst_pos ((hf a b hb).trans ha) l
    | false =>
      rw [updateFirst_neg ha, updateFirst_neg ha, ← ih]
      cases updateFirst p f l with
      | none => rfl
      | some r => exact updateFirst_neg ha r

/-- The two orders at a node where one of the edits stops. -/
theorem updateFirst_comm_head (hf : Keeps q f) {a : α} (ha : p a = true) (hqa : q a = false)
    (l : List α) :
    (updateFirst p f (a :: l)).bind (updateFirst q g) =
      (updateFirst q g (a :: l)).bind (updateFirst p f) := by
  rw [updateFirst_pos ha, updateFirst_neg hqa]
  have hrest : ∀ r, updateFirst p f (a :: r) = (f a).map (· :: r) :=
    fun r => updateFirst_pos ha r
  cases hb : f a with
  | none =>
    cases updateFirst q g l with
    | none => rfl
    | some r => exact ((hrest r).trans (by rw [hb]; rfl)).symm
  | some b =>
    have hqb : q b = false := (hf a b hb).trans hqa
    show updateFirst q g (b :: l) = _
    rw [updateFirst_neg hqb]
    cases updateFirst q g l with
    | none => rfl
    | some r => exact ((hrest r).trans (by rw [hb]; rfl)).symm

/-- Edits in different places may change order. -/
theorem updateFirst_comm (hf : Keeps q f) (hg : Keeps p g)
    (hd : ∀ a, p a = true → q a = false) (l : List α) :
    (updateFirst p f l).bind (updateFirst q g) = (updateFirst q g l).bind (updateFirst p f) := by
  induction l with
  | nil => rfl
  | cons a l ih =>
    cases ha : p a with
    | true => exact updateFirst_comm_head hf ha (hd a ha) l
    | false =>
      cases hqa : q a with
      | true => exact (updateFirst_comm_head hg hqa ha l).symm
      | false =>
        rw [updateFirst_neg ha, updateFirst_neg hqa, Option.bind_map, Option.bind_map]
        have hq : (updateFirst q g ∘ fun r => a :: r) = Option.map (a :: ·) ∘ updateFirst q g :=
          funext fun r => updateFirst_neg hqa r
        have hp : (updateFirst p f ∘ fun r => a :: r) = Option.map (a :: ·) ∘ updateFirst p f :=
          funext fun r => updateFirst_neg ha r
        rw [hq, hp, ← Option.map_bind, ← Option.map_bind, ih]

/-- Only what the edit does where it stops matters. -/
theorem updateFirst_congr {l : List α} (h : ∀ a, l.find? p = some a → f a = g a) :
    updateFirst p f l = updateFirst p g l := by
  induction l with
  | nil => rfl
  | cons b l ih =>
    cases hb : p b with
    | true =>
      rw [updateFirst_pos hb, updateFirst_pos hb, h b (List.find?_cons_of_pos hb)]
    | false =>
      have hn : ¬ p b = true := ne_true_of_eq_false hb
      rw [updateFirst_neg hb, updateFirst_neg hb,
        ih fun a ha => h a ((List.find?_cons_of_neg hn).trans ha)]

/-- An edit that leaves what it finds as it is. -/
theorem updateFirst_eq_self {a : α} : ∀ {l : List α}, l.find? p = some a → f a = some a →
    updateFirst p f l = some l := by
  intro l hl ha
  induction l with
  | nil => cases hl
  | cons b l ih =>
    cases hb : p b with
    | true =>
      rw [List.find?_cons_of_pos hb] at hl
      cases hl
      rw [updateFirst_pos hb, ha]
      rfl
    | false =>
      rw [List.find?_cons_of_neg (ne_true_of_eq_false hb)] at hl
      rw [updateFirst_neg hb, ih hl]
      rfl

end

/-! ## Nodes -/

/-- What is used of an XML library's nodes.  Only an element has children and attributes; an
edit gives the node as it is afterwards. -/
class Dom (N : Type) where
  /-- the name of an element, the text of a text node or a comment -/
  value : N → String
  isElement : N → Bool
  children : N → List N
  /-- the value of the first attribute -/
  firstAttribute : N → Option String
  withChildren : N → List N → N
  /-- the first attribute set to a value -/
  withFirstAttribute : N → String → N
  newText : String → N
  newElement : String → N
  children_leaf : ∀ n, isElement n = false → children n = []
  children_withChildren : ∀ n l, isElement n = true → children (withChildren n l) = l
  value_withChildren : ∀ n l, value (withChildren n l) = value n
  isElement_withChildren : ∀ n l, isElement (withChildren n l) = isElement n
  firstAttribute_withChildren : ∀ n l, firstAttribute (withChildren n l) = firstAttribute n
  withChildren_children : ∀ n, withChildren n (children n) = n
  withChildren_withChildren : ∀ n l l', withChildren (withChildren n l) l' = withChildren n l'
  value_withFirstAttribute : ∀ n s, value (withFirstAttribute n s) = value n
  isElement_withFirstAttribute : ∀ n s, isElement (withFirstAttribute n s) = isElement n
  children_withFirstAttribute : ∀ n s, children (withFirstAttribute n s) = children n
  firstAttribute_withFirstAttribute : ∀ n s, (firstAttribute n).isSome →
    firstAttribute (withFirstAttribute n s) = some s
  value_newText : ∀ s, value (newText s) = s
  isElement_newText : ∀ s, isElement (newText s) = false
  value_newElement : ∀ s, value (newElement s) = s
  isElement_newElement : ∀ s, isElement (newElement s) = true

namespace Dom

attribute [simp] value_withChildren isElement_withChildren firstAttribute_withChildren
  withChildren_children withChildren_withChildren value_withFirstAttribute isElement_withFirstAttribute
  children_withFirstAttribute value_newText isElement_newText value_newElement isElement_newElement

variable {N : Type} [Dom N]

/-! ### Lookups -/

def hasValue (name : String) (n : N) : Bool := value n = name

def isElementNamed (name : String) (n : N) : Bool := isElement n && hasValue name n

def firstChild (n : N) : Option N := (children n).head?

def firstChildNamed (name : String) (n : N) : Option N := (children n).find? (hasValue name)

def firstChildElement (name : String) (n : N) : Option N :=
  (children n).find? (isElementNamed name)

/-- The first child with a name, and the children behind it. -/
def siblingsFrom (name : String) (n : N) : List N :=
  (children n).dropWhile fun m => !hasValue name m

/-- The value of the first child. -/
def text (n : N) : Option String := (firstChild n).map value

theorem hasValue_iff (name : String) (n : N) : hasValue name n = true ↔ value n = name :=
  decide_eq_true_iff

theorem hasValue_disjoint {name name' : String} (h : name ≠ name') (n : N)
    (hn : hasValue name n = true) : hasValue name' n = false := by
  have hv : value n = name := (hasValue_iff name n).mp hn
  exact decide_eq_false (by rw [hv]; exact h)

theorem isElementNamed_disjoint {name name' : String} (h : name ≠ name') (n : N)
    (hn : isElementNamed name n = true) : isElementNamed name' n = false := by
  have hv : hasValue name n = true := (Bool.and_eq_true_iff.mp hn).2
  unfold isElementNamed
  rw [hasValue_disjoint h n hv, Bool.and_false]

theorem isElement_of_children {n : N} (h : children n ≠ []) : isElement n = true :=
  eq_true_of_ne_false fun hf => h (children_leaf n hf)

theorem isElement_of_text {n : N} (h : (text n).isSome) : isElement n = true := by
  refine isElement_of_children fun hn => ?_
  unfold text firstChild at h
  rw [hn] at h
  cases h

/-! ### Edits below a node -/

/-- The edit keeps the node's name and kind. -/
def InPlace (f : N → Option N) : Prop :=
  ∀ a b, f a = some b → value b = value a ∧ isElement b = isElement a

theorem InPlace.keeps_isElement {f : N → Option N} (h : InPlace f) : Keeps isElement f :=
  fun a b hb => (h a b hb).2

theorem InPlace.keeps_hasValue {f : N → Option N} (h : InPlace f) (name : String) :
    Keeps (hasValue name) f := by
  intro a b hb
  unfold hasValue
  rw [(h a b hb).1]

theorem InPlace.keeps_isElementNamed {f : N → Option N} (h : InPlace f) (name : String) :
    Keeps (isElementNamed name) f := by
  intro a b hb
  unfold isElementNamed
  rw [h.keeps_isElement a b hb, h.keeps_hasValue name a b hb]

theorem InPlace.bind {f g : N → Option N} (hf : InPlace f) (hg : InPlace g) :
    InPlace fun a => (f a).bind g := by
  intro a c hc
  obtain ⟨b, hb, hbc⟩ := Option.bind_eq_some_iff.mp hc
  obtain ⟨hv, he⟩ := hf a b hb
  obtain ⟨hv', he'⟩ := hg b c hbc
  exact ⟨hv'.trans hv, he'.trans he⟩

/-- Changes the first child with `p`. -/
def onChild (p : N → Bool) (f : N → Option N) (n : N) : Option N :=
  (updateFirst p f (children n)).map (withChildren n)

variable {p q : N → Bool} {f g : N → Option N}

theorem onChild_isSome (n : N) :
    (onChild p f n).isSome = (((children n).find? p).bind f).isSome := by
  rw [onChild, Option.isSome_map, updateFirst_isSome]

theorem isElement_of_updateFirst {n : N} {l : List N}
    (h : updateFirst p f (children n) = some l) : isElement n = true := by
  refine isElement_of_children fun hn => ?_
  rw [hn] at h
  cases h

theorem onChild_eq_some {n n' : N} (h : onChild p f n = some n') :
    updateFirst p f (children n) = some (children n') ∧ n' = withChildren n (children n') := by
  obtain ⟨l, hl, rfl⟩ := Option.map_eq_some_iff.mp h
  rw [children_withChildren n l (isElement_of_updateFirst hl)]
  exact ⟨hl, rfl⟩

theorem onChild_inPlace : InPlace (onChild p f : N → Option N) := by
  intro a b h
  obtain ⟨l, _, rfl⟩ := Option.map_eq_some_iff.mp h
  exact ⟨value_withChildren a l, isElement_withChildren a l⟩

theorem firstAttribute_onChild {n n' : N} (h : onChild p f n = some n') :
    firstAttribute n' = firstAttribute n := by
  obtain ⟨l, _, rfl⟩ := Option.map_eq_some_iff.mp h
  exact firstAttribute_withChildren n l

theorem onChild_bind_find? (hf : Keeps p f) (n : N) :
    ((onChild p f n).bind fun m => (children m).find? p) = ((children n).find? p).bind f := by
  rw [← updateFirst_bind_find? hf, onChild]
  cases h : updateFirst p f (children n) with
  | none => rfl
  | some l =>
    show (children (withChildren n l)).find? p = l.find? p
    rw [children_withChildren n l (isElement_of_updateFirst h)]

theorem siblingsFrom_onChild (hf : InPlace f) {name : String} {n n' : N}
    (h : onChild (hasValue name) f n = some n') :
    ∃ a b rest, f a = some b ∧ siblingsFrom name n = a :: rest ∧
      siblingsFrom name n' = b :: rest :=
  dropWhile_updateFirst (hf.keeps_hasValue name) (onChild_eq_some h).1

theorem onChild_bind (n : N) :
    (onChild p f n).bind (onChild q g) =
      ((updateFirst p f (children n)).bind (updateFirst q g)).map (withChildren n) := by
  unfold onChild
  cases h : updateFirst p f (children n) with
  | none => rfl
  | some l =>
    have he : isElement n = true := isElement_of_updateFirst h
    show (updateFirst q g (children (withChildren n l))).map (withChildren (withChildren n l)) = _
    rw [children_withChildren n l he, funext (withChildren_withChildren n l)]
    rfl

theorem onChild_bind_self (hf : Keeps p f) (n : N) :
    (onChild p f n).bind (onChild p g) = onChild p (fun a => (f a).bind g) n := by
  rw [onChild_bind, updateFirst_bind hf]
  rfl

theorem onChild_comm (hf : Keeps q f) (hg : Keeps p g) (hd : ∀ a, p a = true → q a = false)
    (n : N) : (onChild p f n).bind (onChild q g) = (onChild q g n).bind (onChild p f) := by
  rw [onChild_bind, onChild_bind, updateFirst_comm hf hg hd]

theorem onChild_eq_self {n m : N} (hm : (children n).find? p = some m) (hf : f m = some m) :
    onChild p f n = some n := by
  rw [onChild, updateFirst_eq_self hm hf]
  exact congrArg some (withChildren_children n)

/-! ### Documents

The first element of the top-level nodes is the root; `elementAt name` is its first child
element of that name, and `partAt name part` the first child of that one named `part`. -/

def rootElement (doc : List N) : Option N := doc.find? isElement

def elementAt (name : String) (doc : List N) : Option N :=
  (rootElement doc).bind (firstChildElement name)

def partAt (name part : String) (doc : List N) : Option N :=
  (elementAt name doc).bind (firstChildNamed part)

def onElement (name : String) (f : N → Option N) (doc : List N) : Option (List N) :=
  updateFirst isElement (onChild (isElementNamed name) f) doc

def onPart (name part : String) (f : N → Option N) (doc : List N) : Option (List N) :=
  onElement name (onChild (hasValue part) f) doc

theorem onElement_isSome (name : String) (doc : List N) :
    (onElement name f doc).isSome = ((elementAt name doc).bind f).isSome := by
  unfold onElement elementAt rootElement
  rw [updateFirst_isSome]
  cases doc.find? isElement with
  | none => rfl
  | some root => exact onChild_isSome root

theorem onPart_isSome (name part : String) (doc : List N) :
    (onPart name part f doc).isSome = ((partAt name part doc).bind f).isSome := by
  unfold onPart partAt
  rw [onElement_isSome]
  cases elementAt name doc with
  | none => rfl
  | some e => exact onChild_isSome e

theorem onPart_of_none {name part : String} {doc : List N} (h : partAt name part doc = none) :
    onPart name part f doc = none := by
  have hs := onPart_isSome (f := f) name part doc
  rw [h] at hs
  exact Option.not_isSome_iff_eq_none.mp (ne_true_of_eq_false hs)

theorem elementAt_onElement_self (hf : InPlace f) {name : String} {doc doc' : List N}
    (h : onElement name f doc = some doc') : elementAt name doc' = (elementAt name doc).bind f := by
  unfold elementAt rootElement
  rw [find?_updateFirst_self onChild_inPlace.keeps_isElement h]
  cases doc.find? isElement with
  | none => rfl
  | some root => exact onChild_bind_find? (hf.keeps_isElementNamed name) root

theorem elementAt_onElement_ne (hf : InPlace f) {name name' : String} (hne : name ≠ name')
    {doc doc' : List N} (h : onElement name f doc = some doc') :
    elementAt name' doc' = elementAt name' doc := by
  have hroot := find?_updateFirst_self onChild_inPlace.keeps_isElement h
  have hsome := updateFirst_isSome (p := isElement) (f := onChild (isElementNamed name) f) doc
  rw [show updateFirst isElement _ doc = some doc' from h] at hsome
  unfold elementAt rootElement
  rw [hroot]
  cases hd : doc.find? isElement with
  | none => rfl
  | some root =>
    rw [hd] at hsome
    obtain ⟨root', hr⟩ := Option.isSome_iff_exists.mp hsome.symm
    show (onChild (isElementNamed name) f root).bind (firstChildElement name') =
      firstChildElement name' root
    rw [show onChild (isElementNamed name) f root = some root' from hr]
    exact find?_updateFirst_ne (hf.keeps_isElementNamed name')
      (isElementNamed_disjoint hne) (onChild_eq_some hr).1

/-- What the edit keeps of a node, it keeps of every element of the document. -/
theorem elementAt_map_onElement {β : Type} (k : N → β) (hk : ∀ a b, f a = some b → k b = k a)
    (hf : InPlace f) {name name' : String} {doc doc' : List N}
    (h : onElement name f doc = some doc') :
    (elementAt name' doc').map k = (elementAt name' doc).map k := by
  by_cases hne : name = name'
  · subst hne
    have hs := onElement_isSome (f := f) name doc
    rw [h] at hs
    rw [elementAt_onElement_self hf h]
    cases he : elementAt name doc with
    | none => rfl
    | some a =>
      rw [he] at hs
      obtain ⟨b, hb⟩ := Option.isSome_iff_exists.mp hs.symm
      rw [Option.bind_some, show f a = some b from hb]
      exact congrArg some (hk a b hb)
  · rw [elementAt_onElement_ne hf hne h]

theorem onElement_bind (hf : InPlace f) (name : String) (doc : List N) :
    (onElement name f doc).bind (onElement name g) =
      onElement name (fun a => (f a).bind g) doc := by
  unfold onElement
  rw [updateFirst_bind onChild_inPlace.keeps_isElement]
  exact congrArg (updateFirst isElement · doc)
    (funext fun root => onChild_bind_self (hf.keeps_isElementNamed name) root)

theorem onElement_comm (hf : InPlace f) (hg : InPlace g) {name name' : String}
    (hne : name ≠ name') (doc : List N) :
    (onElement name f doc).bind (onElement name' g) =
      (onElement name' g doc).bind (onElement name f) := by
  unfold onElement
  rw [updateFirst_bind onChild_inPlace.keeps_isElement,
    updateFirst_bind onChild_inPlace.keeps_isElement]
  exact congrArg (updateFirst isElement · doc) (funext fun root =>
    onChild_comm (hf.keeps_isElementNamed name') (hg.keeps_isElementNamed name)
      (isElementNamed_disjoint hne) root)

/-! ### Parts -/

theorem partAt_eq_find? (name part : String) (doc : List N) : partAt name part doc =
    ((elementAt name doc).map children).bind (List.find? (hasValue part)) := by
  unfold partAt
  cases elementAt name doc <;> rfl

/-- An edit of an element that leaves its children. -/
theorem partAt_onElement (hc : ∀ a b, f a = some b → children b = children a) (hf : InPlace f)
    {name name' part : String} {doc doc' : List N} (h : onElement name f doc = some doc') :
    partAt name' part doc' = partAt name' part doc := by
  rw [partAt_eq_find?, partAt_eq_find?, elementAt_map_onElement children hc hf h]

theorem partAt_onPart_self (hf : InPlace f) {name part : String} {doc doc' : List N}
    (h : onPart name part f doc = some doc') :
    partAt name part doc' = (partAt name part doc).bind f := by
  unfold partAt
  rw [elementAt_onElement_self onChild_inPlace h]
  cases elementAt name doc with
  | none => rfl
  | some e => exact onChild_bind_find? (hf.keeps_hasValue part) e

/-- What is looked up after an edit that went through. -/
theorem partAt_onPart_some (hf : InPlace f) {name part : String}
    {doc doc' : List N} {m : N} (hm : partAt name part doc = some m)
    (h : onPart name part f doc = some doc') :
    ∃ m', partAt name part doc' = some m' ∧ f m = some m' := by
  have hs := onPart_isSome (f := f) name part doc
  rw [h, hm] at hs
  obtain ⟨m', hm'⟩ := Option.isSome_iff_exists.mp hs.symm
  have hpart := partAt_onPart_self hf h
  rw [hm] at hpart
  exact ⟨m', hpart.trans hm', hm'⟩

/-- Another element, or another part of the same element. -/
theorem partAt_onPart_ne (hf : InPlace f) {name name' part part' : String}
    (hne : name ≠ name' ∨ part ≠ part') {doc doc' : List N}
    (h : onPart name part f doc = some doc') :
    partAt name' part' doc' = partAt name' part' doc := by
  unfold partAt
  by_cases hn : name = name'
  · subst hn
    have hp : part ≠ part' := hne.resolve_left fun h => h rfl
    have hs := onElement_isSome (f := onChild (hasValue part) f) name doc
    rw [show onElement name _ doc = some doc' from h] at hs
    rw [elementAt_onElement_self onChild_inPlace h]
    cases he : elementAt name doc with
    | none => rfl
    | some e =>
      rw [he] at hs
      obtain ⟨e', he'⟩ := Option.isSome_iff_exists.mp hs.symm
      rw [Option.bind_some, show onChild (hasValue part) f e = some e' from he']
      exact find?_updateFirst_ne (hf.keeps_hasValue part') (hasValue_disjoint hp)
        (onChild_eq_some he').1
  · rw [elementAt_onElement_ne onChild_inPlace hn h]

/-- An edit takes no part away. -/
theorem partAt_isSome_onPart (hf : InPlace f) {name part : String} {doc doc' : List N}
    (h : onPart name part f doc = some doc') {name' part' : String}
    (hs : (partAt name' part' doc).isSome) : (partAt name' part' doc').isSome := by
  obtain ⟨m, hm⟩ := Option.isSome_iff_exists.mp hs
  by_cases he : name = name' ∧ part = part'
  · obtain ⟨rfl, rfl⟩ := he
    obtain ⟨m', hm', _⟩ := partAt_onPart_some hf hm h
    rw [hm']
    rfl
  · rw [partAt_onPart_ne hf (not_and_or.mp he) h]
    exact hs

theorem onPart_bind (hf : InPlace f) (name part : String) (doc : List N) :
    (onPart name part f doc).bind (onPart name part g) =
      onPart name part (fun a => (f a).bind g) doc := by
  unfold onPart
  rw [onElement_bind onChild_inPlace]
  exact congrArg (onElement name · doc)
    (funext fun e => onChild_bind_self (hf.keeps_hasValue part) e)

theorem onPart_congr {name part : String} {doc : List N}
    (h : ∀ m, partAt name part doc = some m → f m = g m) :
    onPart name part f doc = onPart name part g doc := by
  refine updateFirst_congr fun root hroot => ?_
  refine congrArg (Option.map _) (updateFirst_congr fun e he => ?_)
  refine congrArg (Option.map _) (updateFirst_congr fun m hm => h m ?_)
  unfold partAt elementAt rootElement
  rw [hroot, Option.bind_some, firstChildElement, he]
  exact hm

theorem onPart_eq_self {name part : String} {doc : List N} {m : N}
    (hm : partAt name part doc = some m) (hf : f m = some m) : onPart name part f doc = some doc := by
  obtain ⟨e, he, hm⟩ := Option.bind_eq_some_iff.mp hm
  obtain ⟨root, hroot, he⟩ := Option.bind_eq_some_iff.mp he
  exact updateFirst_eq_self hroot (onChild_eq_self he (onChild_eq_self hm hf))

/-- Looking at a part before its edit. -/
theorem onPart_ite (name part : String) (c : N → Prop) [DecidablePred c] (f : N → Option N)
    (doc : List N) :
    ((partAt name part doc).bind fun m => if c m then onPart name part f doc else some doc) =
      onPart name part (fun m => if c m then f m else some m) doc := by
  cases hm : partAt name part doc with
  | none => exact (onPart_of_none hm).symm
  | some m =>
    show (if c m then onPart name part f doc else some doc) = _
    split
    · next hc =>
      refine onPart_congr fun m' hm' => ?_
      rw [hm] at hm'
      cases hm'
      exact (if_pos hc).symm
    · next hc => exact (onPart_eq_self hm (if_neg hc)).symm

theorem onPart_ite_cases {name part : String} {c : N → Prop} [DecidablePred c] {doc doc' : List N}
    (h : onPart name part (fun m => if c m then f m else some m) doc = some doc') :
    onPart name part f doc = some doc' ∨ doc' = doc := by
  rw [← onPart_ite] at h
  obtain ⟨m, _, h⟩ := Option.bind_eq_some_iff.mp h
  split at h
  · exact Or.inl h
  · exact Or.inr (Option.some.inj h).symm

theorem foldlM_inPlace {α : Type} {g : N → α → Option N} (hg : ∀ a, InPlace fun m => g m a)
    (l : List α) : InPlace fun m => l.foldlM g m := by
  induction l with
  | nil =>
    intro a b h
    cases h
    exact ⟨rfl, rfl⟩
  | cons a l ih =>
    have hc : (fun m => (a :: l).foldlM g m) = fun m => (g m a).bind fun m => l.foldlM g m :=
      funext fun m => List.foldlM_cons
    rw [hc]
    exact (hg a).bind ih

/-- Edits of one part in a row are an edit of that part. -/
theorem foldlM_onPart {α : Type} {g : N → α → Option N} (hg : ∀ a, InPlace fun m => g m a)
    (name part : String) (l : List α) (doc : List N) {m : N} (hm : partAt name part doc = some m) :
    l.foldlM (fun doc a => onPart name part (fun m => g m a) doc) doc =
      onPart name part (fun m => l.foldlM g m) doc := by
  induction l generalizing doc m with
  | nil => exact (onPart_eq_self hm rfl).symm
  | cons a l ih =>
    have hc : (fun m => (a :: l).foldlM g m) = fun m => (g m a).bind fun m => l.foldlM g m :=
      funext fun m => List.foldlM_cons
    rw [List.foldlM_cons, hc, ← onPart_bind (hg a)]
    show (onPart name part (fun m => g m a) doc).bind _ = _
    cases hd : onPart name part (fun m => g m a) doc with
    | none => rfl
    | some doc' =>
      have hs := onPart_isSome (f := fun m => g m a) name part doc
      rw [hd, hm] at hs
      obtain ⟨m', hm'⟩ := Option.isSome_iff_exists.mp hs.symm
      have hpart := partAt_onPart_self (hg a) hd
      rw [hm] at hpart
      exact ih doc' (hpart.trans hm')

end Dom

/-! ## A concrete tree -/

/-- `other` is a text node or a comment. -/
inductive XmlNode
  | element (name : String) (attributes : List (String × String)) (children : List XmlNode)
  | other (value : String)

namespace XmlNode

def value : XmlNode → String
  | element name _ _ => name
  | other value => value

def isElement : XmlNode → Bool
  | element _ _ _ => true
  | other _ => false

def children : XmlNode → List XmlNode
  | element _ _ children => children
  | other _ => []

def firstAttribute : XmlNode → Option String
  | element _ ((_, value) :: _) _ => some value
  | element _ [] _ | other _ => none

def withChildren : XmlNode → List XmlNode → XmlNode
  | element name attributes _, children => element name attributes children
  | other value, _ => other value

def withFirstAttribute : XmlNode → String → XmlNode
  | element name ((key, _) :: rest) children, value => element name ((key, value) :: rest) children
  | element name [] children, _ => element name [] children
  | other text, _ => other text

instance : Dom XmlNode where
  value := value
  isElement := isElement
  children := children
  firstAttribute := firstAttribute
  withChildren := withChildren
  withFirstAttribute := withFirstAttribute
  newText := other
  newElement name := element name [] []
  children_leaf := by
    intro n h
    cases n with
    | element => cases h
    | other => rfl
  children_withChildren := by
    intro n l h
    cases n with
    | element => rfl
    | other => cases h
  value_withChildren n _ := by cases n <;> rfl
  isElement_withChildren n _ := by cases n <;> rfl
  firstAttribute_withChildren n _ := by
    rcases n with ⟨_, _ | _, _⟩ | _ <;> rfl
  withChildren_children n := by cases n <;> rfl
  withChildren_withChildren n _ _ := by cases n <;> rfl
  value_withFirstAttribute n _ := by
    rcases n with ⟨_, _ | _, _⟩ | _ <;> rfl
  isElement_withFirstAttribute n _ := by
    rcases n with ⟨_, _ | _, _⟩ | _ <;> rfl
  children_withFirstAttribute n _ := by
    rcases n with ⟨_, _ | _, _⟩ | _ <;> rfl
  firstAttribute_withFirstAttribute := by
    intro n s h
    rcases n with ⟨_, _ | _, _⟩ | _
    · cases h
    · rfl
    · cases h
  value_newText _ := rfl
  isElement_newText _ := rfl
  value_newElement _ := rfl
  isElement_newElement _ := rfl

end XmlNode

end RockchipHal
