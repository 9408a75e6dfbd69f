import Mathlib.Data.List.Basic
import Mathlib.Data.List.Nodup

/-!
# Parsed XML trees

Elements as Python's ElementTree hands them to a program: a tag in Clark notation, an
attribute dictionary, the text before the first child, the children in document order and
the text after the end tag. Comments and processing instructions are dropped by the parser
and do not appear.

Object identity is modelled by position. Two references into one parsed tree denote the
same object exactly when they are reached by the same child indexes, so a located element
carries its path from the root, and a document-order scan lists located elements.
-/

namespace ElementTree

/-- One element of a parsed tree. -/
structure Element where
  tag : String
  attrib : List (String × String) := []
  text : Option String := none
  children : List Element := []
  tail : Option String := none

/-- An element object: where it sits below the root of the scan, and what it holds. -/
structure Node where
  path : List ℕ
  elem : Element

namespace Element

/-- `element.get(name)`. -/
def get (e : Element) (name : String) : Option String := e.attrib.lookup name

/-- `element.findall(tag)`: the direct children with this tag, in document order. -/
def findall (e : Element) (tag : String) : List Element := e.children.filter (fun c => c.tag == tag)

/-- `element.iterfind("a/b/c")`: descend one child step for each tag of the path. -/
def iterfind (e : Element) : List String → List Element
  | [] => [e]
  | tag :: path => (e.findall tag).flatMap fun c => c.iterfind path

/-- `element.find("a/b/c")`: the first element the path reaches. -/
def find (e : Element) (path : List String) : Option Element := (e.iterfind path).head?

/-- The element without the text that follows its end tag, which is no part of it. -/
def bare (e : Element) : Element := { e with tail := none }

/-- The direct children as located elements. -/
def childNodes (e : Element) : List Node := e.children.zipIdx.map fun (c, i) => ⟨[i], c⟩

/-- Follow child indexes from an element. -/
def at? : List ℕ → Element → Option Element
  | [], e => some e
  | i :: path, e => e.children[i]?.bind (at? path)

mutual

/-- `element.iter()` in document order, with the positions of the elements below `path`. -/
def nodesAt (path : List ℕ) : Element → List Node
  | ⟨tag, attrib, text, children, tail⟩ =>
    ⟨path, ⟨tag, attrib, text, children, tail⟩⟩ :: nodesBelow path 0 children

/-- The scan of the children from index `i` on. -/
def nodesBelow (path : List ℕ) (i : ℕ) : List Element → List Node
  | [] => []
  | c :: rest => nodesAt (path ++ [i]) c ++ nodesBelow path (i + 1) rest

end

/-- Every element object of the tree, in document order. -/
def nodes (e : Element) : List Node := e.nodesAt []

/-- `element.iter()`: the element and everything below it, in document order. -/
def iter (e : Element) : List Element := e.nodes.map Node.elem

mutual

/-- `element.itertext()`: the text of the subtree, piece by piece. -/
def itertext : Element → List String
  | ⟨_, _, text, children, _⟩ => text.toList ++ itertextBelow children

/-- The text of the children, each followed by its own tail. -/
def itertextBelow : List Element → List String
  | [] => []
  | c :: rest => c.itertext ++ c.tail.toList ++ itertextBelow rest

end

/-- The text of the whole subtree, `"".join(element.itertext())`. -/
def allText (e : Element) : String := String.join e.itertext

/-- A bare element keeps its tag. -/
@[simp] theorem tag_bare (e : Element) : e.bare.tag = e.tag := rfl

/-- A bare element keeps its children. -/
@[simp] theorem children_bare (e : Element) : e.bare.children = e.children := rfl

/-- A bare element keeps its attributes. -/
@[simp] theorem get_bare (e : Element) (name : String) : e.bare.get name = e.get name := rfl

/-- The same children are found in a bare element. -/
@[simp] theorem findall_bare (e : Element) (tag : String) : e.bare.findall tag = e.findall tag := rfl

/-- Only direct children with the right tag are found. -/
@[simp] theorem mem_findall {e c : Element} {tag : String} : c ∈ e.findall tag ↔ c ∈ e.children ∧ c.tag = tag := by
  simp [findall]

/-- A one-step path is `findall`. -/
@[simp] theorem iterfind_singleton (e : Element) (tag : String) : e.iterfind [tag] = e.findall tag := by
  simp [iterfind]

/-- The element is the first of its own scan. -/
theorem nodesAt_eq (path : List ℕ) (e : Element) : e.nodesAt path = ⟨path, e⟩ :: nodesBelow path 0 e.children := by
  cases e
  rfl

/-- The scan of a tree starts at its root. -/
theorem nodes_eq (e : Element) : e.nodes = ⟨[], e⟩ :: nodesBelow [] 0 e.children := nodesAt_eq [] e

/-- No index leads to the element itself. -/
@[simp] theorem at?_nil (e : Element) : e.at? [] = some e := by simp [at?]

/-- The first index leads to a child, the others on from there. -/
@[simp] theorem at?_cons (i : ℕ) (path : List ℕ) (e : Element) :
    e.at? (i :: path) = e.children[i]?.bind (at? path) := by simp [at?]

/-- One index leads to that child. -/
theorem at?_singleton (i : ℕ) (e : Element) : e.at? [i] = e.children[i]? := by
  cases h : e.children[i]? <;> simp [h]

/-- Descending along two paths is descending along their concatenation. -/
theorem at?_append (path path' : List ℕ) (e : Element) : e.at? (path ++ path') = (e.at? path).bind (at? path') := by
  induction path generalizing e with
  | nil => simp
  | cons i path ih =>
    rw [List.cons_append, at?_cons, at?_cons]
    cases e.children[i]? with
    | none => rfl
    | some c => exact ih c

/-- Below its own root an element and its bare form have the same positions. -/
theorem at?_bare (i : ℕ) (path : List ℕ) (e : Element) : e.bare.at? (i :: path) = e.at? (i :: path) := by
  simp

mutual

/-- The scan lists exactly the positions inside the tree, each with the element found there. -/
theorem mem_nodesAt (path : List ℕ) : (e : Element) → (n : Node) →
    (n ∈ e.nodesAt path ↔ ∃ below, n.path = path ++ below ∧ e.at? below = some n.elem)
  | ⟨tag, attrib, text, children, tail⟩, ⟨p, x⟩ => by
    rw [nodesAt_eq, List.mem_cons, mem_nodesBelow path 0 children ⟨p, x⟩]
    constructor
    · rintro (hroot | ⟨j, below, hpath, hat⟩)
      · simp only [Node.mk.injEq] at hroot
        exact ⟨[], by simp [hroot.1], by simp [hroot.2]⟩
      · exact ⟨j :: below, by simpa using hpath, by simpa using hat⟩
    · intro h
      obtain ⟨below, hpath, hat⟩ := h
      cases below with
      | nil =>
        refine Or.inl ?_
        simp only [List.append_nil, at?_nil, Option.some.injEq] at hpath hat
        rw [hpath, hat]
      | cons j below => exact Or.inr ⟨j, below, by simpa using hpath, by simpa using hat⟩

/-- The scan of a block of children lists exactly the positions inside those children. -/
theorem mem_nodesBelow (path : List ℕ) (i : ℕ) : (children : List Element) → (n : Node) →
    (n ∈ nodesBelow path i children ↔
      ∃ j below, n.path = path ++ (i + j) :: below ∧ children[j]?.bind (at? below) = some n.elem)
  | [], n => by simp [nodesBelow]
  | c :: rest, n => by
    rw [nodesBelow, List.mem_append, mem_nodesAt (path ++ [i]) c n, mem_nodesBelow path (i + 1) rest n]
    constructor
    · rintro (⟨below, hpath, hat⟩ | ⟨j, below, hpath, hat⟩)
      · exact ⟨0, below, by simpa using hpath, by simpa using hat⟩
      · exact ⟨j + 1, below, by rw [hpath]; congr 2; omega, by simpa using hat⟩
    · intro h
      obtain ⟨j, below, hpath, hat⟩ := h
      cases j with
      | zero => exact Or.inl ⟨below, by simpa using hpath, by simpa using hat⟩
      | succ j => exact Or.inr ⟨j, below, by rw [hpath]; congr 2; omega, by simpa using hat⟩

end

/-- The scan of a block of children is the scan of each of them in turn. -/
theorem nodesBelow_eq_flatMap (path : List ℕ) (i : ℕ) (children : List Element) :
    nodesBelow path i children = (children.zipIdx i).flatMap fun c => c.1.nodesAt (path ++ [c.2]) := by
  induction children generalizing i with
  | nil => rfl
  | cons c rest ih => rw [nodesBelow, List.zipIdx_cons, List.flatMap_cons, ih]

mutual

/-- Where a scan starts makes no difference to the elements it lists. -/
theorem map_elem_nodesAt (path path' : List ℕ) : (e : Element) →
    (e.nodesAt path).map Node.elem = (e.nodesAt path').map Node.elem
  | ⟨tag, attrib, text, children, tail⟩ => by
    rw [nodesAt_eq, nodesAt_eq, List.map_cons, List.map_cons, map_elem_nodesBelow path path' 0 0 children]

/-- Where the scan of a block of children starts makes no difference to the elements it lists. -/
theorem map_elem_nodesBelow (path path' : List ℕ) (i i' : ℕ) : (children : List Element) →
    (nodesBelow path i children).map Node.elem = (nodesBelow path' i' children).map Node.elem
  | [] => rfl
  | c :: rest => by
    rw [nodesBelow, nodesBelow, List.map_append, List.map_append, map_elem_nodesAt (path ++ [i]) (path' ++ [i']) c,
      map_elem_nodesBelow path path' (i + 1) (i' + 1) rest]

end

/-- The elements below an element, as the scan of its children lists them. -/
theorem map_elem_nodesBelow_children (path : List ℕ) (e : Element) :
    (nodesBelow path 0 e.children).map Node.elem = e.iter.tail := by
  rw [iter, nodes_eq, List.map_cons, List.tail_cons]
  exact map_elem_nodesBelow path [] 0 0 e.children

/-- A located element is an object of the tree exactly when its path leads to it. -/
theorem mem_nodes {e : Element} {n : Node} : n ∈ e.nodes ↔ e.at? n.path = some n.elem := by
  rw [nodes, mem_nodesAt]
  exact ⟨fun ⟨below, hpath, hat⟩ => by rw [hpath]; exact hat, fun hat => ⟨n.path, rfl, hat⟩⟩

/-- What follows the end tag makes no difference to the tag. -/
theorem tag_of_bare_eq {e e' : Element} (h : e'.bare = e.bare) : e'.tag = e.tag := by
  rw [← tag_bare e', h, tag_bare]

/-- What follows the end tag makes no difference to the children. -/
theorem children_of_bare_eq {e e' : Element} (h : e'.bare = e.bare) : e'.children = e.children := by
  rw [← children_bare e', h, children_bare]

/-- What follows the end tag makes no difference to the direct children with a tag. -/
theorem findall_of_bare_eq {e e' : Element} (h : e'.bare = e.bare) (tag : String) :
    e'.findall tag = e.findall tag := by
  rw [← findall_bare e', h, findall_bare]

/-- What follows the end tag makes no difference to the attributes. -/
theorem get_of_bare_eq {e e' : Element} (h : e'.bare = e.bare) (name : String) : e'.get name = e.get name := by
  rw [← get_bare e', h, get_bare]

/-- What follows the end tag makes no difference to the objects of the tree, but for its own root. -/
theorem exists_mem_nodes_of_bare_eq {e e' : Element} (h : e'.bare = e.bare) {n : Node} (hn : n ∈ e'.nodes) :
    ∃ m ∈ e.nodes, m.path = n.path ∧ m.elem.bare = n.elem.bare := by
  rw [mem_nodes] at hn
  cases hpath : n.path with
  | nil =>
    rw [hpath, at?_nil, Option.some.injEq] at hn
    exact ⟨⟨[], e⟩, mem_nodes.mpr (at?_nil e), rfl, by rw [← hn, h]⟩
  | cons i below =>
    rw [hpath, ← at?_bare, h, at?_bare] at hn
    exact ⟨⟨i :: below, n.elem⟩, mem_nodes.mpr hn, rfl, rfl⟩

/-- The scan of a subtree lists its objects, below the position of the subtree. -/
theorem mem_nodesAt_iff_mem_nodes {path : List ℕ} {e : Element} {n : Node} :
    n ∈ e.nodesAt path ↔ ∃ m ∈ e.nodes, n = ⟨path ++ m.path, m.elem⟩ := by
  obtain ⟨p, x⟩ := n
  simp only [mem_nodesAt, mem_nodes, Node.mk.injEq]
  constructor
  · intro h
    obtain ⟨below, hpath, hat⟩ := h
    exact ⟨⟨below, x⟩, hat, hpath, rfl⟩
  · intro h
    obtain ⟨⟨below, x'⟩, hat, hpath, rfl⟩ := h
    exact ⟨below, hpath, hat⟩

/-- One position holds one element. -/
theorem eq_of_mem_nodes {e : Element} {n m : Node} (hn : n ∈ e.nodes) (hm : m ∈ e.nodes) (hpath : n.path = m.path) :
    n = m := by
  rw [mem_nodes] at hn hm
  cases n
  cases m
  simp_all

mutual

/-- The scan visits no position twice. -/
theorem nodesAt_nodup (path : List ℕ) : (e : Element) → (e.nodesAt path).Nodup
  | ⟨tag, attrib, text, children, tail⟩ => by
    rw [nodesAt_eq, List.nodup_cons]
    refine ⟨fun hroot => ?_, nodesBelow_nodup path 0 children⟩
    obtain ⟨j, below, hpath, _⟩ := (mem_nodesBelow path 0 children _).mp hroot
    simp at hpath

/-- The scan of a block of children visits no position twice. -/
theorem nodesBelow_nodup (path : List ℕ) (i : ℕ) : (children : List Element) → (nodesBelow path i children).Nodup
  | [] => by simp [nodesBelow]
  | c :: rest => by
    rw [nodesBelow, List.nodup_append']
    refine ⟨nodesAt_nodup (path ++ [i]) c, nodesBelow_nodup path (i + 1) rest, fun n hhead htail => ?_⟩
    obtain ⟨below, hpath, _⟩ := (mem_nodesAt (path ++ [i]) c n).mp hhead
    obtain ⟨j, below', hpath', _⟩ := (mem_nodesBelow path (i + 1) rest n).mp htail
    rw [hpath, List.append_assoc, List.append_cancel_left_eq, List.singleton_append, List.cons.injEq] at hpath'
    omega

end

/-- Every object of the tree is listed once. -/
theorem nodes_nodup (e : Element) : e.nodes.Nodup := nodesAt_nodup [] e

/-- A direct child is an object of the tree, at its own index. -/
theorem mem_childNodes {e : Element} {n : Node} :
    n ∈ e.childNodes ↔ ∃ i, n.path = [i] ∧ e.children[i]? = some n.elem := by
  cases n with
  | mk path x =>
    simp only [childNodes, List.mem_map, Prod.exists, List.mem_zipIdx_iff_getElem?, Node.mk.injEq]
    constructor
    · intro h
      obtain ⟨c, i, hchild, hpath, rfl⟩ := h
      exact ⟨i, hpath.symm, by simpa using hchild⟩
    · intro h
      obtain ⟨i, hpath, hchild⟩ := h
      exact ⟨x, i, by simpa using hchild, hpath.symm, rfl⟩

/-- The children with a tag are the child objects with it. -/
theorem findall_eq_map_childNodes (e : Element) (tag : String) :
    e.findall tag = (e.childNodes.filter fun n => n.elem.tag == tag).map Node.elem := by
  rw [childNodes, List.filter_map, List.map_map, findall]
  conv_lhs => rw [← List.zipIdx_map_fst 0 e.children]
  rw [List.filter_map]
  rfl

/-- A direct child is an object of the tree. -/
theorem mem_nodes_of_mem_childNodes {e : Element} {n : Node} (h : n ∈ e.childNodes) : n ∈ e.nodes := by
  obtain ⟨i, hpath, hchild⟩ := mem_childNodes.mp h
  rw [mem_nodes, hpath]
  simp [hchild]

/-- The objects of a subtree are objects of the tree, below the subtree's position. -/
theorem mem_nodes_of_subtree {e sub : Element} {path : List ℕ} {n : Node} (hsub : e.at? path = some sub)
    (hn : n ∈ sub.nodes) : ⟨path ++ n.path, n.elem⟩ ∈ e.nodes := by
  rw [mem_nodes] at hn ⊢
  simp [at?_append, hsub, hn]

/-- In a scan, exactly one element passes a test when one does and every other passing one is it. -/
theorem filter_nodes_eq_singleton_iff {e : Element} {p : Node → Bool} {n : Node} :
    e.nodes.filter p = [n] ↔ n ∈ e.nodes ∧ p n = true ∧ ∀ m ∈ e.nodes, p m = true → m = n := by
  constructor
  · intro h
    have hn : n ∈ e.nodes.filter p := by simp [h]
    refine ⟨(List.mem_filter.mp hn).1, (List.mem_filter.mp hn).2, fun m hm hpm => ?_⟩
    have hm' : m ∈ e.nodes.filter p := List.mem_filter.mpr ⟨hm, hpm⟩
    simpa [h] using hm'
  · intro h
    obtain ⟨hn, hpn, hunique⟩ := h
    have hperm : (e.nodes.filter p).Perm [n] := by
      rw [List.perm_ext_iff_of_nodup ((nodes_nodup e).filter p) (List.nodup_singleton n)]
      intro m
      rw [List.mem_filter, List.mem_singleton]
      exact ⟨fun hm => hunique m hm.1 hm.2, fun hm => hm ▸ ⟨hn, hpn⟩⟩
    exact List.perm_singleton.mp hperm

end Element

end ElementTree
