import ApronSaml.Library.ElementTree

/-!
# The events a signature covers

The canonical form of an element as the sequence of its events: the start of each element
with its attributes in no order, each character of text, and the end of each element. A
signature that lies in what it covers is left out of it, while the text behind it stays.
Events can be read in one way only: elements with the same events have the same tag, the
same attributes, the same text and, one by one, children with the same events.
-/

namespace ElementTree

/-- An event of a canonical document. -/
inductive Event
  | opened (tag : String) (attributes : String → Option String)
  | character (c : Char)
  | closed

/-- The character that an event is. -/
def Event.char? : Event → Option Char
  | .character c => some c
  | _ => none

/-- The characters of a text. -/
def textEvents (text : Option String) : List Event := (text.getD "").toList.map Event.character

/-- A part of the content of an element. -/
inductive Item
  | character (c : Char)
  | child (e : Element)

/-- The characters of a text as content. -/
def textItems (text : Option String) : List Item := (text.getD "").toList.map Item.character

/-- The element that a part of content is. -/
def Item.child? : Item → Option Element
  | .character _ => none
  | .child e => some e

namespace Element

mutual

/-- The events of an element. -/
def events : Element → List Event
  | ⟨tag, attrib, text, children, _⟩ =>
    .opened tag (fun name => attrib.lookup name) :: (textEvents text ++ eventsBelow children ++ [.closed])

/-- The events of children, each followed by its own tail. -/
def eventsBelow : List Element → List Event
  | [] => []
  | c :: rest => c.events ++ textEvents c.tail ++ eventsBelow rest

end

/-- The content of an element, without the children that are left out. -/
def items (keep : Element → Bool) (e : Element) : List Item :=
  textItems e.text ++ e.children.flatMap fun c => (if keep c then [.child c] else []) ++ textItems c.tail

end Element

/-- The events of a part of content. -/
def Item.events : Item → List Event
  | .character c => [.character c]
  | .child e => e.events

/-- Two parts of content have the same events and are of one kind. -/
def Item.Same : Item → Item → Prop
  | .character c, .character c' => c = c'
  | .child e, .child e' => e.events = e'.events
  | _, _ => False

/-- The events of an element around some content. -/
def wrap (e : Element) (content : List Item) : List Event :=
  .opened e.tag e.get :: (content.flatMap Item.events ++ [.closed])

/-- The events of a text's characters. -/
theorem flatMap_textItems (text : Option String) : (textItems text).flatMap Item.events = textEvents text := by
  rw [textItems, textEvents, List.flatMap_map]
  exact List.flatMap_pure_eq_map _ _

namespace Element

/-- The events of children are those of the content that they make up. -/
theorem eventsBelow_eq (children : List Element) :
    eventsBelow children =
      (children.flatMap fun c => [Item.child c] ++ textItems c.tail).flatMap Item.events := by
  induction children with
  | nil => rfl
  | cons c rest ih =>
    rw [eventsBelow, ih, List.flatMap_cons, List.flatMap_append, List.flatMap_append, flatMap_textItems,
      List.flatMap_singleton, Item.events]

/-- The events of an element are those of its content between its start and its end. -/
theorem events_eq (e : Element) : e.events = wrap e (e.items fun _ => true) := by
  obtain ⟨tag, attrib, text, children, tail⟩ := e
  simp only [events, eventsBelow_eq, wrap, items, if_true, List.flatMap_append, flatMap_textItems]
  rfl

/-- The content's elements are the children that are kept. -/
theorem filterMap_items (keep : Element → Bool) (e : Element) :
    (e.items keep).filterMap Item.child? = e.children.filter keep := by
  have htext (text : Option String) : (textItems text).filterMap Item.child? = [] := by
    simp [textItems, List.filterMap_eq_nil_iff, Item.child?]
  rw [items, List.filterMap_append, htext, List.nil_append]
  induction e.children with
  | nil => rfl
  | cons c rest ih =>
    rw [List.flatMap_cons, List.filterMap_append, List.filterMap_append, htext, List.append_nil, ih, List.filter_cons]
    cases keep c <;> rfl

end Element

/-- An element's events start with its start. -/
theorem exists_events (e : Element) : ∃ rest, e.events = .opened e.tag e.get :: rest := ⟨_, e.events_eq⟩

/-- Content is read in one way, where the elements in it are. -/
theorem forall₂_of_flatMap_eq {bound : ℕ}
    (hcancel : ∀ (a b : Element) (x y : List Event), a.events.length < bound → a.events ++ x = b.events ++ y →
      a.events = b.events ∧ x = y) {content content' : List Item} {x y : List Event}
    (hbound : (content.flatMap Item.events).length < bound)
    (h : content.flatMap Item.events ++ Event.closed :: x = content'.flatMap Item.events ++ Event.closed :: y) :
    List.Forall₂ Item.Same content content' ∧ x = y := by
  induction content generalizing content' with
  | nil =>
    cases content' with
    | nil => exact ⟨.nil, by simpa using h⟩
    | cons item' content' =>
      cases item' with
      | character c => simp [Item.events] at h
      | child e =>
        obtain ⟨rest, hrest⟩ := exists_events e
        simp [Item.events, hrest] at h
  | cons item content ih =>
    rw [List.flatMap_cons, List.length_append] at hbound
    cases content' with
    | nil =>
      cases item with
      | character c => simp [Item.events] at h
      | child e =>
        obtain ⟨rest, hrest⟩ := exists_events e
        simp [Item.events, hrest] at h
    | cons item' content' =>
      rw [List.flatMap_cons, List.flatMap_cons, List.append_assoc, List.append_assoc] at h
      cases item with
      | character c =>
        cases item' with
        | character c' =>
          simp only [Item.events, List.singleton_append, List.cons.injEq, Event.character.injEq] at h
          obtain ⟨hsame, hrest⟩ := ih (by omega) h.2
          exact ⟨.cons h.1 hsame, hrest⟩
        | child e' =>
          obtain ⟨rest, hrest⟩ := exists_events e'
          simp [Item.events, hrest] at h
      | child e =>
        cases item' with
        | character c' =>
          obtain ⟨rest, hrest⟩ := exists_events e
          simp [Item.events, hrest] at h
        | child e' =>
          simp only [Item.events] at h hbound
          obtain ⟨hevents, hrest⟩ := hcancel e e' _ _ (by omega) h
          obtain ⟨hsame, hrest⟩ := ih (by omega) hrest
          exact ⟨.cons hevents hsame, hrest⟩

/-- No events of an element are the start of another's. -/
theorem events_cancel (a b : Element) (x y : List Event) (h : a.events ++ x = b.events ++ y) :
    a.events = b.events ∧ x = y := by
  induction hlength : a.events.length using Nat.strongRecOn generalizing a b x y with
  | ind n ih =>
    have hcancel (c d : Element) (x y : List Event) (hlt : c.events.length < n)
        (h : c.events ++ x = d.events ++ y) : c.events = d.events ∧ x = y := ih _ hlt c d x y h rfl
    rw [a.events_eq, wrap, List.length_cons, List.length_append] at hlength
    rw [a.events_eq, b.events_eq, wrap, wrap, List.cons_append, List.cons_append, List.append_assoc, List.append_assoc,
      List.cons.injEq, List.singleton_append, List.singleton_append] at h
    obtain ⟨hopened, hcontent⟩ := h
    obtain ⟨_, hrest⟩ := forall₂_of_flatMap_eq hcancel (by omega) hcontent
    rw [hrest] at hcontent
    rw [a.events_eq, b.events_eq, wrap, wrap, hopened, List.append_cancel_right hcontent]
    exact ⟨rfl, hrest⟩

/-- Elements with the same events around their content have the same tag, the same attributes and, part by part, the
same content. -/
theorem wrap_inj {a b : Element} {content content' : List Item} (h : wrap a content = wrap b content') :
    a.tag = b.tag ∧ a.get = b.get ∧ List.Forall₂ Item.Same content content' := by
  rw [wrap, wrap, List.cons.injEq, Event.opened.injEq] at h
  obtain ⟨⟨htag, hget⟩, hcontent⟩ := h
  have hsame := forall₂_of_flatMap_eq (fun c d x y _ h => events_cancel c d x y h) (Nat.lt_succ_self _) hcontent
  exact ⟨htag, hget, hsame.1⟩

/-- Elements of the same content have children of the same events. -/
theorem forall₂_filterMap {content content' : List Item} (h : List.Forall₂ Item.Same content content') :
    List.Forall₂ (fun c c' : Element => c.events = c'.events) (content.filterMap Item.child?)
      (content'.filterMap Item.child?) := by
  induction h with
  | nil => exact .nil
  | @cons item item' content content' hsame _ ih =>
    cases item with
    | character c =>
      cases item' with
      | character c' => exact ih
      | child e' => exact False.elim hsame
    | child e =>
      cases item' with
      | character c' => exact False.elim hsame
      | child e' => exact .cons hsame ih

/-- The characters among the events of a text are the text. -/
theorem filterMap_textEvents (text : Option String) :
    (textEvents text).filterMap Event.char? = text.toList.flatMap String.toList := by
  cases text <;> simp [textEvents, List.filterMap_map, Function.comp_def, Event.char?]

namespace Element

variable {a b : Element}

/-- The same events make for the same tag, the same attributes, and children of the same events. -/
theorem of_events_eq (h : a.events = b.events) :
    a.tag = b.tag ∧ a.get = b.get ∧
      List.Forall₂ (fun c c' : Element => c.events = c'.events) a.children b.children := by
  rw [a.events_eq, b.events_eq] at h
  obtain ⟨htag, hget, hsame⟩ := wrap_inj h
  have hchildren := forall₂_filterMap hsame
  rw [filterMap_items, filterMap_items, List.filter_true, List.filter_true] at hchildren
  exact ⟨htag, hget, hchildren⟩

/-- Children of the same events with a tag correspond. -/
theorem forall₂_findall {children children' : List Element}
    (h : List.Forall₂ (fun c c' : Element => c.events = c'.events) children children') (tag : String) :
    List.Forall₂ (fun c c' : Element => c.events = c'.events) (children.filter fun c => c.tag == tag)
      (children'.filter fun c => c.tag == tag) := by
  refine List.rel_filter (fun c c' hsame => ?_) h
  show (c.tag == tag) = true ↔ (c'.tag == tag) = true
  rw [(of_events_eq hsame).1]

mutual

/-- The text of a subtree is the characters among its events. -/
theorem flatMap_itertext : (e : Element) → e.itertext.flatMap String.toList = e.events.filterMap Event.char?
  | ⟨tag, attrib, text, children, tail⟩ => by
    simp only [itertext, events, List.flatMap_append, flatMap_itertextBelow children, List.filterMap_cons, Event.char?,
      List.filterMap_append, filterMap_textEvents, List.filterMap_nil, List.append_nil]

/-- The text of children is the characters among their events. -/
theorem flatMap_itertextBelow : (children : List Element) →
    (itertextBelow children).flatMap String.toList = (eventsBelow children).filterMap Event.char?
  | [] => rfl
  | c :: rest => by
    rw [itertextBelow, eventsBelow, List.flatMap_append, List.flatMap_append, flatMap_itertext c,
      flatMap_itertextBelow rest, List.filterMap_append, List.filterMap_append, filterMap_textEvents]

end

/-- The same events make for the same text of the whole subtree. -/
theorem allText_of_events_eq (h : a.events = b.events) : a.allText = b.allText := by
  have htext (e : Element) : e.allText.toList = e.events.filterMap Event.char? := by
    rw [allText, ← flatMap_itertext]
    induction e.itertext with
    | nil => rfl
    | cons piece pieces ih => rw [String.join_cons, String.toList_append, ih, List.flatMap_cons]
  exact String.toList_inj.mp (by rw [htext, htext, h])

/-- The same events make for corresponding children of any tag. -/
theorem findall_of_events_eq (h : a.events = b.events) (tag : String) :
    List.Forall₂ (fun c c' : Element => c.events = c'.events) (a.findall tag) (b.findall tag) :=
  forall₂_findall (of_events_eq h).2.2 tag

/-- What is the same on elements of the same events is the same over corresponding elements. -/
theorem map_eq_of_forall₂ {β : Type} {f : Element → β} (hf : ∀ {c c' : Element}, c.events = c'.events → f c = f c')
    {found found' : List Element} (h : List.Forall₂ (fun c c' : Element => c.events = c'.events) found found') :
    found.map f = found'.map f := by
  rw [← List.forall₂_eq_eq_eq, List.forall₂_map_left_iff, List.forall₂_map_right_iff]
  exact h.imp fun _ _ => hf

/-- What corresponds to one element is one element. -/
theorem sole_of_forall₂ {found : List Element} {c' : Element}
    (h : List.Forall₂ (fun c c' : Element => c.events = c'.events) found [c']) :
    ∃ c, found = [c] ∧ c.events = c'.events := by
  obtain ⟨c, rest, hc, hrest, rfl⟩ := List.forall₂_cons_right_iff.mp h
  rw [List.forall₂_nil_right_iff.mp hrest]
  exact ⟨c, rfl, hc⟩

/-- The events of an element without an object below it, given by its position; the text behind the object stays. -/
def eventsWithout : List ℕ → Element → List Event
  | [], _ => []
  | i :: path, e =>
    .opened e.tag e.get :: (textEvents e.text ++
      (e.children.zipIdx.flatMap fun c =>
        (if c.2 = i then eventsWithout path c.1 else c.1.events) ++ textEvents c.1.tail) ++ [.closed])

/-- Leaving out the only child with a tag leaves the content of the others. -/
theorem eventsWithout_singleton {e : Element} {tag : String} {i : ℕ}
    (h : ∀ j c, e.children[j]? = some c → (c.tag = tag ↔ j = i)) :
    e.eventsWithout [i] = wrap e (e.items fun c => c.tag != tag) := by
  have hchildren (children : List Element) (start : ℕ)
      (h : ∀ j c, children[j]? = some c → (c.tag = tag ↔ start + j = i)) :
      ((children.zipIdx start).flatMap fun c =>
        (if c.2 = i then eventsWithout [] c.1 else c.1.events) ++ textEvents c.1.tail) =
        (children.flatMap fun c => (if c.tag != tag then [Item.child c] else []) ++ textItems c.tail).flatMap
          Item.events := by
    induction children generalizing start with
    | nil => rfl
    | cons c rest ih =>
      have hhead : c.tag = tag ↔ start = i := h 0 c rfl
      have hrest := ih (start + 1) fun j d hd => by
        rw [Nat.add_assoc, Nat.add_comm 1 j]
        exact h (j + 1) d hd
      rw [List.zipIdx_cons, List.flatMap_cons, List.flatMap_cons, List.flatMap_append, hrest, List.flatMap_append,
        flatMap_textItems]
      congr 2
      by_cases hskip : c.tag = tag
      · simp [hskip, hhead.mp hskip, eventsWithout]
      · have hkeep : start ≠ i := fun heq => hskip (hhead.mpr heq)
        simp [hskip, hkeep, Item.events]
  rw [eventsWithout, hchildren e.children 0 (by simpa using h), wrap, items, List.flatMap_append, flatMap_textItems]

/-- What is covered without the children of one tag determines the element but for them. -/
theorem of_events_eq_wrap {tag : String} (h : a.events = wrap b (b.items fun c => c.tag != tag)) :
    a.tag = b.tag ∧ a.get = b.get ∧ ∀ other, other ≠ tag →
      List.Forall₂ (fun c c' : Element => c.events = c'.events) (a.findall other) (b.findall other) := by
  rw [a.events_eq] at h
  obtain ⟨htag, hget, hsame⟩ := wrap_inj h
  refine ⟨htag, hget, fun other hother => ?_⟩
  have hchildren := forall₂_filterMap hsame
  rw [filterMap_items, filterMap_items, List.filter_true] at hchildren
  have hfound := forall₂_findall hchildren other
  rw [List.filter_filter] at hfound
  have hkeep : (fun c : Element => c.tag == other && c.tag != tag) = fun c => c.tag == other := by
    funext c
    by_cases hc : c.tag = other
    · simp [hc, hother]
    · simp [hc]
  rwa [hkeep] at hfound

end Element

end ElementTree
