import Polyglot.Xml.Tree
import Mathlib.Data.List.Chain

/-!
# Joined trees

What reading a written tree answers: runs of text that meet are joined, empty ones are gone, and all
else is as it was. Elements are found by name in a joined tree where they were in the tree itself.
-/

namespace Polyglot.Xml.Node

/-- A node in front of others, joined to the run of text that it meets. -/
def joinTo : Node → List Node → List Node
  | text front, text back :: rest => text (front ++ back) :: rest
  | text front, rest => if front = "" then rest else text front :: rest
  | node, rest => node :: rest

mutual

/-- A tree with the runs of text joined and each attribute changed by a function. -/
def joinedWith (f : Attribute → Attribute) : Node → Node
  | element name attributes children =>
    element name (attributes.map f) (joinedAllWith f children)
  | node => node

/-- Some trees, joined side by side and inward. -/
def joinedAllWith (f : Attribute → Attribute) : List Node → List Node
  | [] => []
  | node :: rest => joinTo (joinedWith f node) (joinedAllWith f rest)

end

/-- A tree with the runs of text joined. -/
def joined (node : Node) : Node :=
  node.joinedWith id

/-- Some trees with the runs of text joined. -/
def joinedAll (nodes : List Node) : List Node :=
  joinedAllWith id nodes

/-! ### Joining -/

variable {node next : Node} {nodes rest : List Node} {name : String} {f : Attribute → Attribute}

/-- The first node is no run of text. -/
def NoText (nodes : List Node) : Prop :=
  ∀ words, nodes.head? ≠ some (text words)

@[simp] theorem joinTo_element (name : String) (attributes : List Attribute)
    (children rest : List Node) :
    joinTo (element name attributes children) rest = element name attributes children :: rest := by
  cases rest <;> rfl

@[simp] theorem joinTo_empty (nodes : List Node) : joinTo (text "") nodes = nodes := by
  cases nodes with
  | nil => rfl
  | cons node rest => cases node <;> simp [joinTo]

theorem joinTo_text (words : String) (h : NoText nodes) :
    joinTo (text words) nodes = if words = "" then nodes else text words :: nodes := by
  cases nodes with
  | nil => rfl
  | cons node rest =>
    cases node with
    | text back => exact absurd rfl (h back)
    | _ => rfl

/-- Texts that meet are joined from the left or from the right. -/
theorem joinTo_joinTo (front back : String) (nodes : List Node) :
    joinTo (text front) (joinTo (text back) nodes) = joinTo (text (front ++ back)) nodes := by
  by_cases hb : back = ""
  · simp [hb]
  · have hc : front ++ back ≠ "" := by simp [hb]
    cases nodes with
    | nil => simp [joinTo, hb]
    | cons node rest => cases node <;> simp [joinTo, hb, String.append_assoc]

/-- No run of text is empty and no two runs meet. -/
def AllJoined : List Node → Prop
  | [] => True
  | text words :: rest => words ≠ "" ∧ NoText rest ∧ AllJoined rest
  | _ :: rest => AllJoined rest

theorem AllJoined.joinTo (h : AllJoined nodes) (node : Node) : AllJoined (joinTo node nodes) := by
  cases node with
  | text front =>
    cases nodes with
    | nil =>
      rw [joinTo_text front (by simp [NoText])]
      split_ifs with hf
      · exact h
      · exact ⟨hf, by simp [NoText], h⟩
    | cons next rest =>
      cases next with
      | text back => exact ⟨by simp [h.1], h.2⟩
      | _ =>
        rw [joinTo_text front (by simp [NoText])]
        split_ifs with hf
        · exact h
        · exact ⟨hf, by simp [NoText], h⟩
  | _ => cases nodes <;> exact h

theorem allJoined_joinedAll (nodes : List Node) : AllJoined (joinedAll nodes) := by
  induction nodes with
  | nil => trivial
  | cons node nodes ih => exact ih.joinTo _

/-- Two nodes of which at most one is a run of text. -/
def Parted (node next : Node) : Prop :=
  ∀ words later, node = text words → next ≠ text later

theorem parted_comm : Parted node next ↔ Parted next node := by
  constructor <;> exact fun h words later hn hl => h later words hl hn

theorem allJoined_iff : AllJoined nodes ↔ text "" ∉ nodes ∧ nodes.IsChain Parted := by
  induction nodes with
  | nil => simp [AllJoined]
  | cons node rest ih =>
    rw [List.isChain_cons, List.mem_cons, not_or]
    cases node with
    | text words =>
      have hn : NoText rest ↔ ∀ next ∈ rest.head?, Parted (text words) next := by
        constructor
        · rintro h next hm _ later - rfl
          exact h later hm
        · exact fun h later hl => h _ hl words later rfl rfl
      rw [AllJoined, ih, hn, ne_comm, Ne, text.injEq, eq_comm]
      tauto
    | _ => simp [AllJoined, ih, Parted]

/-- Joined nodes are joined in the opposite order. -/
theorem AllJoined.reverse (h : AllJoined nodes) : AllJoined nodes.reverse := by
  rw [allJoined_iff] at h ⊢
  refine ⟨by simpa using h.1, List.isChain_reverse.2 (h.2.imp ?_)⟩
  exact fun _ _ => parted_comm.1

/-! ### Looking into joined trees -/

@[simp] theorem joined_element (name : String) (attributes : List Attribute)
    (children : List Node) :
    joined (element name attributes children) = element name attributes (joinedAll children) := by
  rw [joined, joinedWith, List.map_id, joinedAll]

@[simp] theorem joined_text (words : String) : joined (text words) = text words := rfl

@[simp] theorem joinedAll_nil : joinedAll [] = [] := rfl

theorem joinedAll_cons (node : Node) (nodes : List Node) :
    joinedAll (node :: nodes) = joinTo node.joined (joinedAll nodes) := rfl

@[simp] theorem localName?_joined (node : Node) : node.joined.localName? = node.localName? := by
  cases node <;> rfl

@[simp] theorem attribute?_joined (key : String) (node : Node) :
    node.joined.attribute? key = node.attribute? key := by
  cases node with
  | element => rw [joined_element]; rfl
  | _ => rfl

@[simp] theorem children_joined (node : Node) : node.joined.children = joinedAll node.children := by
  cases node with
  | element => rw [joined_element]; rfl
  | _ => rfl

theorem filter_joinTo (node : Node) (nodes : List Node) (name : String) :
    (joinTo node nodes).filter (fun child => child.localName? == some name) =
      [node].filter (fun child => child.localName? == some name) ++
        nodes.filter fun child => child.localName? == some name := by
  fun_cases joinTo node nodes
  case case4 => rw [← List.filter_append, List.singleton_append]
  all_goals rfl

/-- The elements of a name inside a joined element are those inside it, joined. -/
theorem childrenNamed_joined (name : String) (node : Node) :
    childrenNamed name node.joined = (childrenNamed name node).map joined := by
  have hn (nodes : List Node) :
      (joinedAll nodes).filter (fun child => child.localName? == some name) =
        (nodes.filter fun child => child.localName? == some name).map joined := by
    induction nodes with
    | nil => rfl
    | cons node nodes ih =>
      rw [joinedAll_cons, filter_joinTo, ih, List.filter_cons, List.filter_cons, localName?_joined]
      split_ifs <;> rfl
  rw [childrenNamed, children_joined, hn, childrenNamed]

theorem elementsNamedIn_append (name : String) (front back : List Node) :
    elementsNamedIn name (front ++ back) =
      elementsNamedIn name front ++ elementsNamedIn name back := by
  induction front with
  | nil => rfl
  | cons node front ih => rw [List.cons_append, elementsNamedIn, ih, elementsNamedIn,
      List.append_assoc]

theorem elementsNamedIn_joinTo (name : String) (node : Node) (nodes : List Node) :
    elementsNamedIn name (joinTo node nodes) =
      elementsNamed name node ++ elementsNamedIn name nodes := by
  fun_cases joinTo node nodes
  all_goals rfl

mutual

/-- The elements of a name in a joined tree are those in it, joined. -/
theorem elementsNamed_joined (name : String) (node : Node) :
    elementsNamed name node.joined = (elementsNamed name node).map joined := by
  cases node with
  | element tag attributes children =>
    rw [joined_element, elementsNamed, elementsNamed, elementsNamedIn_joinedAll name children]
    split_ifs <;> simp
  | _ => rfl

theorem elementsNamedIn_joinedAll (name : String) (nodes : List Node) :
    elementsNamedIn name (joinedAll nodes) = (elementsNamedIn name nodes).map joined := by
  cases nodes with
  | nil => rfl
  | cons node nodes =>
    rw [joinedAll_cons, elementsNamedIn_joinTo, elementsNamed_joined name node,
      elementsNamedIn_joinedAll name nodes, elementsNamedIn, List.map_append]

end

end Polyglot.Xml.Node
