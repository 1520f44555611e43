import BookCensus.Census.Title
import Mathlib.Data.List.Basic

/-!
# Routes to the elements below an element

An element below another is named here by the *route* that leads down to it: at
every node passed, the position of the next one among the nodes right below.
The fragment of a template is a node on the way like any other.  Equal subtrees
may stand at several positions, so it is the route, never the contents, that
tells two elements apart.

`Place.at?` follows a route without looking at anything beside it.  The main
statements tie that to the list `Place.descendants`, which a walk over the whole
tree builds:

* `map_at?_routes` and `mem_routes_iff` — the list consists of what the routes
  of the tree lead to, and these are all the routes that lead to an element;
* `pairwise_lt_routes` — it goes through them in strictly ascending
  lexicographic order, so that an element comes before what is below it and
  what is below it before later siblings;
* `mem_enclosing_of_at?` and `ne_of_at?` — a route leads strictly inside the
  element that it starts from, through the fragments of templates too;
* `Place.at?_append` and `enclosing_of_elementAt?` — routes can be put together, and
  one that leads to an element goes through everything around it.
-/

namespace BookCensus.Document

/-- Positions among the nodes right below, from the outermost inwards. -/
abbrev Route := List Nat

/-- The element that a route leads to from among siblings.  `make` places an
element beside them, `inner` one in the contents of a fragment among them. -/
def elementAt? (make inner : Spot → Place) (siblings : List Node) : Route → Option Place
  | [] => none
  | i :: route =>
      match siblings[i]? with
      | some (.element data children) =>
          let p := make ⟨data, children, (siblings.take i).reverse, siblings.drop (i + 1)⟩
          match route with
          | [] => some p
          | _ => elementAt? (.child p) (.content p) children route
      | some (.fragment contents) => elementAt? inner inner contents route
      | _ => none

mutual

/-- The routes to a node, when it is an element, and to the elements below it,
`i` being the position of the node. -/
def routesAt (i : Nat) : Node → List Route
  | .text _ => []
  | .comment _ => []
  | .element _ children => [i] :: (routesAmong 0 children).map (i :: ·)
  | .fragment contents => (routesAmong 0 contents).map (i :: ·)

/-- The routes to the elements among and below siblings, `i` being the position
of the first of them. -/
def routesAmong (i : Nat) : List Node → List Route
  | [] => []
  | n :: rest => routesAt i n ++ routesAmong (i + 1) rest

end

namespace Place

/-- The element that a route leads to from this one. -/
def at? (p : Place) (route : Route) : Option Place :=
  elementAt? (child p) (content p) p.children route

/-- The routes to the elements below this one, in the order of the tree. -/
def routes (p : Place) : List Route :=
  routesAmong 0 p.children

end Place

/-! ## Routes are never empty and begin where their siblings do -/

/-- A route to a node or below it begins with the position of the node. -/
theorem exists_cons_of_mem_routesAt {i : Nat} {n : Node} {route : Route}
    (h : route ∈ routesAt i n) : ∃ tail, route = i :: tail := by
  cases n with
  | text s => simp [routesAt] at h
  | comment s => simp [routesAt] at h
  | element data children =>
      rcases List.mem_cons.mp h with rfl | h
      · exact ⟨[], rfl⟩
      · obtain ⟨tail, -, rfl⟩ := List.mem_map.mp h
        exact ⟨tail, rfl⟩
  | fragment contents =>
      obtain ⟨tail, -, rfl⟩ := List.mem_map.mp (by simpa [routesAt] using h)
      exact ⟨tail, rfl⟩

/-- A route among siblings leads through one of them. -/
theorem mem_routesAmong_iff {i : Nat} {ns : List Node} {route : Route} :
    route ∈ routesAmong i ns ↔ ∃ k n, ns[k]? = some n ∧ route ∈ routesAt (i + k) n := by
  induction ns generalizing i with
  | nil => simp [routesAmong]
  | cons n rest ih =>
      rw [routesAmong, List.mem_append, ih]
      constructor
      · rintro (h | ⟨k, m, hk, h⟩)
        · exact ⟨0, n, rfl, h⟩
        · refine ⟨k + 1, m, hk, ?_⟩
          rwa [show i + (k + 1) = i + 1 + k by omega]
      · rintro ⟨k, m, hk, h⟩
        cases k with
        | zero =>
            obtain rfl : n = m := Option.some.inj hk
            exact Or.inl h
        | succ k =>
            refine Or.inr ⟨k, m, hk, ?_⟩
            rwa [show i + 1 + k = i + (k + 1) by omega]

/-- A route among siblings begins with the position of one of them. -/
theorem exists_cons_of_mem_routesAmong {i : Nat} {ns : List Node} {route : Route}
    (h : route ∈ routesAmong i ns) : ∃ k tail, route = (i + k) :: tail := by
  obtain ⟨k, n, -, hn⟩ := mem_routesAmong_iff.mp h
  obtain ⟨tail, rfl⟩ := exists_cons_of_mem_routesAt hn
  exact ⟨k, tail, rfl⟩

/-! ## The order of routes -/

/-- Longer routes keep their order when all begin with one more position. -/
private theorem pairwise_lt_map_cons {i : Nat} {routes : List Route}
    (h : routes.Pairwise (· < ·)) : (routes.map (i :: ·)).Pairwise (· < ·) := by
  rw [List.pairwise_map]
  exact h.imp fun {a b} hab => List.cons_lt_cons_iff.mpr (Or.inr ⟨rfl, hab⟩)

mutual

/-- Routes to a node and below it ascend: the node comes first. -/
theorem pairwise_lt_routesAt (i : Nat) : ∀ n, (routesAt i n).Pairwise (· < ·)
  | .text _ => by simp [routesAt]
  | .comment _ => by simp [routesAt]
  | .element _ children => by
      rw [routesAt, List.pairwise_cons]
      refine ⟨?_, pairwise_lt_map_cons (pairwise_lt_routesAmong 0 children)⟩
      intro route h
      obtain ⟨tail, htail, rfl⟩ := List.mem_map.mp h
      obtain ⟨k, rest, rfl⟩ := exists_cons_of_mem_routesAmong htail
      exact List.cons_lt_cons_iff.mpr (Or.inr ⟨rfl, List.nil_lt_cons _ _⟩)
  | .fragment contents => by
      rw [routesAt]
      exact pairwise_lt_map_cons (pairwise_lt_routesAmong 0 contents)

/-- Routes among siblings ascend: those through an earlier sibling come first. -/
theorem pairwise_lt_routesAmong (i : Nat) : ∀ ns, (routesAmong i ns).Pairwise (· < ·)
  | [] => by simp [routesAmong]
  | n :: rest => by
      rw [routesAmong, List.pairwise_append]
      refine ⟨pairwise_lt_routesAt i n, pairwise_lt_routesAmong (i + 1) rest, ?_⟩
      intro left hleft right hright
      obtain ⟨tail, rfl⟩ := exists_cons_of_mem_routesAt hleft
      obtain ⟨k, tail', rfl⟩ := exists_cons_of_mem_routesAmong hright
      exact List.cons_lt_cons_iff.mpr (Or.inl (by omega))

end

/-- **Order of the tree.**  The routes below an element ascend strictly, hence
none is listed twice. -/
theorem Place.pairwise_lt_routes (p : Place) : p.routes.Pairwise (· < ·) :=
  pairwise_lt_routesAmong 0 p.children

/-! ## What a route leads to -/

section Steps

variable {make inner : Spot → Place} {siblings : List Node} {i : Nat}

/-- A route that ends at an element among the siblings leads to it. -/
theorem elementAt?_here {data : Element} {children : List Node}
    (h : siblings[i]? = some (.element data children)) :
    elementAt? make inner siblings [i]
      = some (make ⟨data, children, (siblings.take i).reverse, siblings.drop (i + 1)⟩) := by
  rw [elementAt?, h]

/-- A route that goes on below an element among the siblings is followed there. -/
theorem elementAt?_below {data : Element} {children : List Node} {route : Route}
    (h : siblings[i]? = some (.element data children)) (hroute : route ≠ []) :
    elementAt? make inner siblings (i :: route)
      = elementAt?
          (.child (make ⟨data, children, (siblings.take i).reverse, siblings.drop (i + 1)⟩))
          (.content (make ⟨data, children, (siblings.take i).reverse, siblings.drop (i + 1)⟩))
          children route := by
  obtain ⟨j, rest, rfl⟩ := List.exists_cons_of_ne_nil hroute
  rw [elementAt?, h]

/-- A route through a fragment among the siblings is followed in its contents. -/
theorem elementAt?_inside {contents : List Node} {route : Route}
    (h : siblings[i]? = some (.fragment contents)) :
    elementAt? make inner siblings (i :: route) = elementAt? inner inner contents route := by
  rw [elementAt?, h]

/-- All that the first position of a route can do: name the element that the route leads
to, name one that it goes on below, or name a fragment that it goes on in. -/
theorem elementAt?_cons_cases {tail : Route} {e : Place}
    (h : elementAt? make inner siblings (i :: tail) = some e) :
    (∃ data children, siblings[i]? = some (.element data children) ∧ tail = [] ∧
      e = make ⟨data, children, (siblings.take i).reverse, siblings.drop (i + 1)⟩) ∨
    (∃ data children p, siblings[i]? = some (.element data children) ∧ tail ≠ [] ∧
      p = make ⟨data, children, (siblings.take i).reverse, siblings.drop (i + 1)⟩ ∧
      elementAt? (.child p) (.content p) children tail = some e) ∨
    ∃ contents, siblings[i]? = some (.fragment contents) ∧
      elementAt? inner inner contents tail = some e := by
  cases hn : siblings[i]? with
  | none => simp [elementAt?, hn] at h
  | some n =>
      cases n with
      | text s => simp [elementAt?, hn] at h
      | comment s => simp [elementAt?, hn] at h
      | element data children =>
          by_cases htail : tail = []
          · subst htail
            rw [elementAt?_here hn] at h
            exact Or.inl ⟨data, children, rfl, rfl, (Option.some.inj h).symm⟩
          · rw [elementAt?_below hn htail] at h
            exact Or.inr (Or.inl ⟨data, children, _, rfl, htail, rfl, h⟩)
      | fragment contents =>
          rw [elementAt?_inside hn] at h
          exact Or.inr (Or.inr ⟨contents, rfl, h⟩)

end Steps

/-! ## Every route that leads somewhere is listed -/

/-- A route among siblings is a route at the sibling that it begins with. -/
theorem cons_mem_routesAmong_iff {i : Nat} {tail : Route} {ns : List Node} :
    i :: tail ∈ routesAmong 0 ns ↔ ∃ n, ns[i]? = some n ∧ i :: tail ∈ routesAt i n := by
  rw [mem_routesAmong_iff]
  constructor
  · rintro ⟨k, n, hk, hn⟩
    obtain ⟨tail', htail⟩ := exists_cons_of_mem_routesAt hn
    obtain rfl : i = k := by simpa using (List.cons.inj htail).1
    exact ⟨n, hk, by simpa using hn⟩
  · rintro ⟨n, hi, hn⟩
    exact ⟨i, n, hi, by simpa using hn⟩

/-- A listed route leads to an element, and a route that leads to one is
listed. -/
theorem mem_routesAmong_iff_isSome (make inner : Spot → Place) (ns : List Node)
    (route : Route) :
    route ∈ routesAmong 0 ns ↔ (elementAt? make inner ns route).isSome := by
  -- one step of the route at a time: it leads to a node here, below it or inside a fragment
  induction route generalizing make inner ns with
  | nil =>
      constructor
      · intro h
        obtain ⟨_, _, h⟩ := exists_cons_of_mem_routesAmong h
        cases h
      · intro h
        simp [elementAt?] at h
  | cons i tail ih =>
      rw [cons_mem_routesAmong_iff]
      cases hn : ns[i]? with
      | none => simp [elementAt?, hn]
      | some n =>
          cases n with
          | text s => simp [elementAt?, hn, routesAt]
          | comment s => simp [elementAt?, hn, routesAt]
          | element data children =>
              by_cases htail : tail = []
              · subst htail
                simp [elementAt?_here hn, routesAt]
              · rw [elementAt?_below hn htail, ← ih]
                simp [routesAt, htail]
          | fragment contents =>
              rw [elementAt?_inside hn, ← ih]
              simp [routesAt]

/-- **Completeness.**  The routes of an element are exactly those that lead from
it to another. -/
theorem Place.mem_routes_iff (p : Place) (route : Route) :
    route ∈ p.routes ↔ ∃ e, p.at? route = some e := by
  rw [← Option.isSome_iff_exists]
  exact mem_routesAmong_iff_isSome _ _ _ _

/-! ## The walk over siblings, one at a time -/

section Siblings

variable (make inner : Spot → Place) (before rest children : List Node)

/-- Text is no place, but it counts among the siblings. -/
theorem placesAmong_text (s : String) :
    Place.placesAmong make inner before (.text s :: rest)
      = Place.placesAmong make inner (.text s :: before) rest := by
  simp [Place.placesAmong, Place.placesAt]

/-- Nor is a comment. -/
theorem placesAmong_comment (s : String) :
    Place.placesAmong make inner before (.comment s :: rest)
      = Place.placesAmong make inner (.comment s :: before) rest := by
  simp [Place.placesAmong, Place.placesAt]

/-- An element comes before what is below it. -/
theorem placesAmong_element (data : Element) :
    Place.placesAmong make inner before (.element data children :: rest)
      = make ⟨data, children, before, rest⟩
          :: Place.placesAmong (.child (make ⟨data, children, before, rest⟩))
              (.content (make ⟨data, children, before, rest⟩)) [] children
        ++ Place.placesAmong make inner (.element data children :: before) rest := by
  simp [Place.placesAmong, Place.placesAt]

/-- The contents of a template come before the siblings behind it. -/
theorem placesAmong_fragment :
    Place.placesAmong make inner before (.fragment children :: rest)
      = Place.placesAmong inner inner [] children
        ++ Place.placesAmong make inner (.fragment children :: before) rest := by
  rw [Place.placesAmong]

end Siblings

/-! ## The walk over the tree lists what the routes lead to -/

/-- The routes through an element among siblings lead to what a walk finds
there. -/
private theorem map_elementAt?_routesAt_element (make inner : Spot → Place)
    (before after children : List Node) (data : Element)
    (hbelow : ∀ make inner, (routesAmong 0 children).map (elementAt? make inner children)
      = (Place.placesAmong make inner [] children).map some) :
    (routesAt before.length (.element data children)).map
        (elementAt? make inner (before.reverse ++ .element data children :: after))
      = (Place.placesAt make before after (.element data children)).map some := by
  have hhere : (before.reverse ++ .element data children :: after)[before.length]?
      = some (.element data children) := by simp
  have hbefore : (before.reverse ++ .element data children :: after).take before.length
      = before.reverse := by simp
  have hafter : (before.reverse ++ .element data children :: after).drop (before.length + 1)
      = after := by simp [List.drop_append]
  rw [routesAt, Place.placesAt, List.map_cons, List.map_cons, elementAt?_here hhere, hbefore,
    hafter, List.reverse_reverse, List.map_map, ← hbelow]
  congr 1
  apply List.map_congr_left
  intro route h
  obtain ⟨k, tail, rfl⟩ := exists_cons_of_mem_routesAmong h
  rw [Function.comp_apply, elementAt?_below hhere (List.cons_ne_nil _ _), hbefore, hafter,
    List.reverse_reverse]

/-- The walk over siblings lists, in the same order, what the routes among them
lead to. -/
theorem map_elementAt?_routesAmong (make inner : Spot → Place) (before : List Node) :
    ∀ ns, (routesAmong before.length ns).map (elementAt? make inner (before.reverse ++ ns))
      = (Place.placesAmong make inner before ns).map some
  | [] => by simp [routesAmong, Place.placesAmong]
  | .text s :: rest => by
      have hrest := map_elementAt?_routesAmong make inner (.text s :: before) rest
      simpa [routesAmong, routesAt, Place.placesAmong, Place.placesAt] using hrest
  | .comment s :: rest => by
      have hrest := map_elementAt?_routesAmong make inner (.comment s :: before) rest
      simpa [routesAmong, routesAt, Place.placesAmong, Place.placesAt] using hrest
  | .element data children :: rest => by
      have hrest := map_elementAt?_routesAmong make inner (.element data children :: before) rest
      have hhere := map_elementAt?_routesAt_element make inner before rest children data
        fun make inner => map_elementAt?_routesAmong make inner [] children
      have hwalk : Place.placesAmong make inner before (.element data children :: rest)
          = Place.placesAt make before rest (.element data children)
            ++ Place.placesAmong make inner (.element data children :: before) rest := by
        simp [Place.placesAmong]
      rw [routesAmong, hwalk, List.map_append, List.map_append, hhere]
      congr 1
      simpa using hrest
  | .fragment contents :: rest => by
      have hrest := map_elementAt?_routesAmong make inner (.fragment contents :: before) rest
      have hinside := map_elementAt?_routesAmong inner inner [] contents
      rw [routesAmong, Place.placesAmong, List.map_append, List.map_append]
      congr 1
      · rw [← hinside, routesAt, List.map_map]
        apply List.map_congr_left
        intro route _
        exact elementAt?_inside (by simp)
      · simpa using hrest

/-- **Soundness.**  The elements below one are, in their order, those that its
routes lead to. -/
theorem Place.map_at?_routes (p : Place) : p.routes.map p.at? = p.descendants.map some :=
  map_elementAt?_routesAmong (child p) (content p) [] p.children

/-- When a list is what some routes lead to, and these are all the routes that lead
to an element, it has every element that a route leads to and no other. -/
theorem mem_iff_exists_route {follow : Route → Option Place} {routes : List Route}
    {ps : List Place} (hmap : routes.map follow = ps.map some)
    (hroutes : ∀ route, route ∈ routes ↔ ∃ p, follow route = some p) {p : Place} :
    p ∈ ps ↔ ∃ route, follow route = some p := by
  have hmem : p ∈ ps ↔ some p ∈ routes.map follow := by
    rw [hmap]
    simp
  rw [hmem, List.mem_map]
  constructor
  · rintro ⟨route, -, h⟩
    exact ⟨route, h⟩
  · rintro ⟨route, h⟩
    exact ⟨route, (hroutes route).mpr ⟨p, h⟩, h⟩

/-- The walk over siblings lists exactly what routes among them lead to. -/
theorem mem_placesAmong_iff (make inner : Spot → Place) (siblings : List Node) (p : Place) :
    p ∈ Place.placesAmong make inner [] siblings ↔
      ∃ route, elementAt? make inner siblings route = some p := by
  apply mem_iff_exists_route (map_elementAt?_routesAmong make inner [] siblings)
  intro route
  rw [← Option.isSome_iff_exists]
  exact mem_routesAmong_iff_isSome make inner siblings route

/-- An element is in the list of those below another when a route leads to it. -/
theorem Place.mem_descendants_iff (p e : Place) :
    e ∈ p.descendants ↔ ∃ route, p.at? route = some e :=
  mem_placesAmong_iff (child p) (content p) p.children e

/-- The routes to elements that pass a test lead to these, in their order. -/
theorem map_filter_routes {follow : Route → Option Place} {routes : List Route}
    {ps : List Place} (hmap : routes.map follow = ps.map some) (test : Place → Bool) :
    (routes.filter fun route => (follow route).any test).map follow
      = (ps.filter test).map some :=
  calc (routes.filter fun route => (follow route).any test).map follow
      = (routes.map follow).filter (Option.any test) := by
        rw [List.filter_map]
        rfl
    _ = (ps.map some).filter (Option.any test) := by rw [hmap]
    _ = (ps.filter test).map some := by
        rw [List.filter_map]
        rfl

/-! ## What all elements on routes have in common -/

/-- What holds of all that is placed among siblings, and of what is right below an
element whenever it holds of that, holds of everything that routes lead to. -/
theorem elementAt?_induction {P : Place → Prop} (hchild : ∀ p s, P p → P (.child p s))
    (hcontent : ∀ p s, P p → P (.content p s)) {e : Place} {route : Route} :
    ∀ {make inner : Spot → Place} {siblings : List Node},
      (∀ s, P (make s)) → (∀ s, P (inner s)) →
      elementAt? make inner siblings route = some e → P e := by
  induction route with
  | nil =>
      intro make inner siblings _ _ h
      simp [elementAt?] at h
  | cons i tail ih =>
      intro make inner siblings hmake hinner h
      rcases elementAt?_cons_cases h with ⟨data, children, -, -, rfl⟩
        | ⟨data, children, p, -, -, rfl, hbelow⟩ | ⟨contents, -, hinside⟩
      · exact hmake _
      · exact ih (fun s => hchild _ s (hmake _)) (fun s => hcontent _ s (hmake _)) hbelow
      · exact ih hinner hinner hinside

/-! ## Routes lead strictly inside -/

namespace Place

/-- A route leads to an element inside the one that it starts from. -/
theorem mem_enclosing_of_at? {p e : Place} {route : Route} (h : p.at? route = some e) :
    p ∈ e.enclosing :=
  elementAt?_induction (P := fun e => p ∈ e.enclosing)
    (fun _ _ => List.mem_cons_of_mem _) (fun _ _ => List.mem_cons_of_mem _)
    (fun _ => List.mem_cons_self) (fun _ => List.mem_cons_self) h

/-- An element has fewer elements around it than one inside it. -/
theorem length_enclosing_lt {p e : Place} (h : p ∈ e.enclosing) :
    p.enclosing.length < e.enclosing.length := by
  induction e with
  | top inTree s => cases h
  | child parent s ih =>
      rcases List.mem_cons.mp h with rfl | h
      · exact Nat.lt_succ_self _
      · exact Nat.lt_succ_of_lt (ih h)
  | content template s ih =>
      rcases List.mem_cons.mp h with rfl | h
      · exact Nat.lt_succ_self _
      · exact Nat.lt_succ_of_lt (ih h)

/-- No route leads back to where it starts. -/
theorem ne_of_at? {p e : Place} {route : Route} (h : p.at? route = some e) : e ≠ p := by
  rintro rfl
  exact absurd (length_enclosing_lt (mem_enclosing_of_at? h)) (Nat.lt_irrefl _)

end Place

/-! ## Routes through an element -/

/-- Following a route and then another from where it led is following both.  What
`make` and `inner` place has the children that they are given. -/
theorem elementAt?_append {make inner : Spot → Place} {siblings : List Node} {q : Place}
    {first second : Route} (hmake : ∀ s, (make s).children = s.children)
    (hinner : ∀ s, (inner s).children = s.children)
    (h : elementAt? make inner siblings first = some q) (hsecond : second ≠ []) :
    elementAt? make inner siblings (first ++ second) = q.at? second := by
  induction first generalizing make inner siblings with
  | nil => simp [elementAt?] at h
  | cons i tail ih =>
      rcases elementAt?_cons_cases h with ⟨data, children, hn, rfl, rfl⟩
        | ⟨data, children, p, hn, htail, rfl, hbelow⟩ | ⟨contents, hn, hinside⟩
      · rw [List.singleton_append, elementAt?_below hn hsecond, Place.at?, hmake]
      · rw [List.cons_append, elementAt?_below hn (by simp [htail])]
        exact ih (fun _ => rfl) (fun _ => rfl) hbelow
      · rw [List.cons_append, elementAt?_inside hn]
        exact ih hinner hinner hinside

/-- What is below an element among and below some siblings is among or below them. -/
theorem mem_placesAmong_of_mem_descendants {make inner : Spot → Place} {siblings : List Node}
    {p e : Place} (hmake : ∀ s, (make s).children = s.children)
    (hinner : ∀ s, (inner s).children = s.children)
    (hp : p ∈ Place.placesAmong make inner [] siblings) (he : e ∈ p.descendants) :
    e ∈ Place.placesAmong make inner [] siblings := by
  obtain ⟨first, hfirst⟩ := (mem_placesAmong_iff make inner siblings p).mp hp
  obtain ⟨second, hsecond⟩ := (p.mem_descendants_iff e).mp he
  have hne : second ≠ [] := by
    rintro rfl
    simp [Place.at?, elementAt?] at hsecond
  refine (mem_placesAmong_iff make inner siblings e).mpr ⟨first ++ second, ?_⟩
  rw [elementAt?_append hmake hinner hfirst hne, hsecond]

/-- What is around an element that a route leads to, from the inside outwards: elements
that a part of the route leads to and from which the rest leads on, and then everything
that `make` and `inner` place elements in. -/
theorem enclosing_of_elementAt? {outer : List Place} {e : Place} {route : Route} :
    ∀ {make inner : Spot → Place} {siblings : List Node},
      (∀ s, (make s).children = s.children) → (∀ s, (inner s).children = s.children) →
      (∀ s, (make s).enclosing = outer) → (∀ s, (inner s).enclosing = outer) →
      elementAt? make inner siblings route = some e →
      ∃ inside, e.enclosing = inside ++ outer ∧ ∀ p ∈ inside, ∃ first rest,
        first ++ rest = route ∧ elementAt? make inner siblings first = some p ∧
          p.at? rest = some e := by
  induction route generalizing outer with
  | nil =>
      intro make inner siblings _ _ _ _ h
      simp [elementAt?] at h
  | cons i tail ih =>
      intro make inner siblings hmake hinner hmakeOuter hinnerOuter h
      rcases elementAt?_cons_cases h with ⟨data, children, -, -, rfl⟩
        | ⟨data, children, p, hn, -, hp, hbelow⟩ | ⟨contents, hn, hinside⟩
      · exact ⟨[], hmakeOuter _, by simp⟩
      · have hchildren : p.children = children := hp ▸ hmake _
        have houter : p.enclosing = outer := hp ▸ hmakeOuter _
        -- what is placed below `p` has `p` around it, and then what `p` has
        obtain ⟨inside, hinside, hroutes⟩ := @ih (p :: p.enclosing) (.child p) (.content p)
          children (fun _ => rfl) (fun _ => rfl) (fun _ => rfl) (fun _ => rfl) hbelow
        refine ⟨inside ++ [p], ?_, ?_⟩
        · rw [hinside, houter, List.append_assoc, List.singleton_append]
        · intro q hq
          rcases List.mem_append.mp hq with hq | hq
          · obtain ⟨first, rest, rfl, hfirst, hrest⟩ := hroutes q hq
            have hne : first ≠ [] := by
              rintro rfl
              simp [elementAt?] at hfirst
            refine ⟨i :: first, rest, rfl, ?_, hrest⟩
            rw [elementAt?_below hn hne, ← hp, hfirst]
          · obtain rfl := List.mem_singleton.mp hq
            refine ⟨[i], tail, rfl, ?_, by rwa [Place.at?, hchildren]⟩
            rw [elementAt?_here hn, hp]
      · obtain ⟨inside, houter, hroutes⟩ := ih hinner hinner hinnerOuter hinnerOuter hinside
        refine ⟨inside, houter, ?_⟩
        intro q hq
        obtain ⟨first, rest, rfl, hfirst, hrest⟩ := hroutes q hq
        exact ⟨i :: first, rest, rfl, by rw [elementAt?_inside hn, hfirst], hrest⟩

namespace Place

/-- A route goes on from where its first part leads. -/
theorem at?_append {p q : Place} {first second : Route} (h : p.at? first = some q)
    (hsecond : second ≠ []) : p.at? (first ++ second) = q.at? second :=
  elementAt?_append (fun _ => rfl) (fun _ => rfl) h hsecond

/-- Around an element below another are those that the route passes, then that other
element and what is around it. -/
theorem enclosing_of_at? {p e : Place} {route : Route} (h : p.at? route = some e) :
    ∃ inside, e.enclosing = inside ++ p :: p.enclosing ∧ ∀ q ∈ inside, ∃ first rest,
      first ++ rest = route ∧ p.at? first = some q ∧ q.at? rest = some e :=
  enclosing_of_elementAt? (fun _ => rfl) (fun _ => rfl) (fun _ => rfl) (fun _ => rfl) h

/-- A route leads somewhere only if it is not empty. -/
theorem ne_nil_of_at? {p q : Place} {route : Route} (h : p.at? route = some q) :
    route ≠ [] := by
  rintro rfl
  simp [at?, elementAt?] at h

end Place

end BookCensus.Document
