import BookCensus.Files.System

/-!
# Where paths lead

`FileSystem.locate` walks a path with a counter that runs out.  A *way* says the
same step by step and without a counter: along the parts of a path, from one
directory to the next, where every link that is met counts one and puts its own
path in place of its name.  A path leads to a location when there is a way to it
that follows no more links than a file system allows (`LeadsTo`).

* `locate_eq_ok_iff` — the walk finds exactly the locations that paths lead to, so
  that no path leads to two (`LeadsTo.unique`);
* `LeadsTo.isReal` — what a path leads to is there, and the directories from the
  root to it are directories, none of them a link;
* `locate_text` — the written form of such a location leads back to it.

For the last it matters what entries are called.  A name with a slash in it, or
one that is a dot, could not be written as a part of a path; no file system has
such names (`isWellNamed`).
-/

namespace BookCensus

/-! ## Names -/

/-- What can be the name of an entry: one part of a path that stands for itself
and is not too long. -/
def isEntryName (name : String) : Bool :=
  name ≠ "" && name ≠ "." && name ≠ ".." && name.utf8ByteSize ≤ 255
    && !name.toList.contains '/' && !name.toList.contains '\x00'

/-- What it takes to be the name of an entry. -/
theorem isEntryName_iff {name : String} :
    isEntryName name = true ↔
      name ≠ "" ∧ name ≠ "." ∧ name ≠ ".." ∧ name.utf8ByteSize ≤ 255 ∧
        '/' ∉ name.toList ∧ '\x00' ∉ name.toList := by
  simp [isEntryName, and_assoc]

namespace FileNode

mutual

/-- Whether all entries at and below a node have names that entries can have. -/
def isWellNamed : FileNode → Bool
  | .file _ => true
  | .link _ => true
  | .directory entries => areWellNamed entries

/-- `isWellNamed` of the entries of a directory, their own names included. -/
def areWellNamed : List (String × FileNode) → Bool
  | [] => true
  | (name, node) :: rest => isEntryName name && node.isWellNamed && areWellNamed rest

end

/-- An entry that is found has its name, and so have those below it. -/
theorem isWellNamed_of_lookup {name : String} {node : FileNode} :
    ∀ {entries : List (String × FileNode)}, areWellNamed entries = true →
      entries.lookup name = some node → isEntryName name = true ∧ node.isWellNamed = true
  | [], _, h => by cases h
  | (other, first) :: rest, hnamed, h => by
      rw [areWellNamed, Bool.and_eq_true, Bool.and_eq_true] at hnamed
      obtain ⟨⟨hother, hfirst⟩, hrest⟩ := hnamed
      rw [List.lookup_cons] at h
      split at h
      · next heq =>
          obtain rfl : name = other := by simpa using heq
          obtain rfl := Option.some.inj h
          exact ⟨hother, hfirst⟩
      · exact isWellNamed_of_lookup hrest h

/-- Where something stands, every part of the location is the name of an entry. -/
theorem isEntryName_of_at? {l : Location} {node below : FileNode}
    (hnode : node.isWellNamed = true) (h : node.at? l = some below) :
    ∀ name ∈ l, isEntryName name = true := by
  induction l generalizing node with
  | nil => simp
  | cons name rest ih =>
      cases node with
      | file bytes => simp [at?] at h
      | link target => simp [at?] at h
      | directory entries =>
          rw [at?, Option.bind_eq_some_iff] at h
          obtain ⟨next, hnext, hbelow⟩ := h
          rw [isWellNamed] at hnode
          obtain ⟨hname, hnext⟩ := isWellNamed_of_lookup hnode hnext
          intro other hother
          rcases List.mem_cons.mp hother with rfl | hother
          · exact hname
          · exact ih hnext hbelow other hother

/-- A location is looked up directory by directory. -/
theorem at?_append (l rest : Location) (node : FileNode) :
    node.at? (l ++ rest) = (node.at? l).bind (at? rest) := by
  induction l generalizing node with
  | nil => simp [at?]
  | cons name l ih =>
      cases node with
      | file bytes => simp [at?]
      | link target => simp [at?]
      | directory entries =>
          rw [List.cons_append, at?, at?, Option.bind_assoc]
          congr 1
          funext next
          exact ih next

/-- Only in a directory does something stand under a name. -/
theorem at?_singleton_eq_some_iff {name : String} {node below : FileNode} :
    node.at? [name] = some below ↔
      ∃ entries, node = .directory entries ∧ entries.lookup name = some below := by
  cases node with
  | file bytes => simp [at?]
  | link target => simp [at?]
  | directory entries =>
      rw [at?, Option.bind_eq_some_iff]
      simp [at?]

end FileNode

namespace FileSystem

variable {fs : FileSystem}

/-! ## Ways -/

/-- A way from a directory along parts of a path to a location, with the number of
links on it.  A dot stays, two dots go up (at the root they stay), a name goes to
the entry of that name, and a link goes on along its path and what is left. -/
inductive Way (fs : FileSystem) : Location → List String → Nat → Location → Prop
  | here (place : Location) : Way fs place [] 0 place
  | stay {place l : Location} {rest : List String} {links : Nat}
      {entries : List (String × FileNode)} (hplace : fs.at? place = some (.directory entries))
      (way : Way fs place rest links l) :
      Way fs place ("." :: rest) links l
  | up {place l : Location} {rest : List String} {links : Nat}
      {entries : List (String × FileNode)} (hplace : fs.at? place = some (.directory entries))
      (way : Way fs place.dropLast rest links l) :
      Way fs place (".." :: rest) links l
  | down {place l : Location} {name : String} {rest : List String} {links : Nat}
      {entries : List (String × FileNode)} (hplace : fs.at? place = some (.directory entries))
      (hdot : name ≠ ".") (hdots : name ≠ "..") (hsize : name.utf8ByteSize ≤ 255)
      {node : FileNode} (hentry : entries.lookup name = some node)
      (hnode : ∀ target, node ≠ .link target)
      (way : Way fs (place ++ [name]) rest links l) :
      Way fs place (name :: rest) links l
  | follow {place l : Location} {name : String} {rest : List String} {links : Nat}
      {entries : List (String × FileNode)} (hplace : fs.at? place = some (.directory entries))
      (hdot : name ≠ ".") (hdots : name ≠ "..") (hsize : name.utf8ByteSize ≤ 255)
      {target : String} (hentry : entries.lookup name = some (.link target))
      (way : Way fs (if Path.isAbsolute target then [] else place) (steps target ++ rest) links l) :
      Way fs place (name :: rest) (links + 1) l

/-- The walk goes a way. -/
theorem exists_way_of_walk {links : Nat} {place l : Location} {todo : List String}
    (h : fs.walk links place todo = .ok l) : ∃ n, n ≤ links ∧ fs.Way place todo n l := by
  fun_induction FileSystem.walk fs links place todo with
  | case1 links place =>
      obtain rfl := Except.ok.inj h
      exact ⟨0, Nat.zero_le _, .here place⟩
  | case2 links place rest entries hplace ih =>
      obtain ⟨n, hn, way⟩ := ih h
      exact ⟨n, hn, .stay hplace way⟩
  | case3 links place rest entries hplace hdot ih =>
      obtain ⟨n, hn, way⟩ := ih h
      exact ⟨n, hn, .up hplace way⟩
  | case4 | case5 | case6 | case9 => cases h
  | case7 place name rest entries hplace hdot hdots hsize target hentry links start ih =>
      obtain ⟨n, hn, way⟩ := ih h
      refine ⟨n + 1, Nat.succ_le_succ hn, .follow hplace hdot hdots (by omega) hentry ?_⟩
      simpa [start] using way
  | case8 links place name rest entries hplace hdot hdots hsize node hnode hentry ih =>
      obtain ⟨n, hn, way⟩ := ih h
      exact ⟨n, hn, .down hplace hdot hdots (by omega) hentry (fun target h => hnode target h) way⟩

/-- Every way is walked, if the links on it may be followed. -/
theorem Way.walk {n : Nat} {place l : Location} {todo : List String}
    (way : fs.Way place todo n l) {links : Nat} (h : n ≤ links) :
    fs.walk links place todo = .ok l := by
  induction way generalizing links with
  | here place => rw [FileSystem.walk]
  | stay hplace way ih =>
      rw [FileSystem.walk, hplace]
      exact ih h
  | up hplace way ih =>
      rw [FileSystem.walk, hplace]
      exact ih h
  | @down place l name rest n entries hplace hdot hdots hsize node hentry hnode way ih =>
      rw [FileSystem.walk, hplace]
      simp only [if_neg hdot, if_neg hdots, if_neg (Nat.not_lt.mpr hsize), hentry]
      cases node with
      | link target => exact absurd rfl (hnode target)
      | file bytes => exact ih h
      | directory below => exact ih h
  | follow hplace hdot hdots hsize hentry way ih =>
      obtain ⟨links, rfl⟩ := Nat.exists_eq_add_of_le' h
      rw [FileSystem.walk, hplace]
      simp only [if_neg hdot, if_neg hdots, if_neg (Nat.not_lt.mpr hsize), hentry]
      simpa using ih (Nat.le_add_left _ links)

/-- **Walking finds the ways.**  A walk ends well exactly where a way ends that follows no more
links than are allowed. -/
theorem walk_eq_ok_iff {links : Nat} {place l : Location} {todo : List String} :
    fs.walk links place todo = .ok l ↔ ∃ n, n ≤ links ∧ fs.Way place todo n l :=
  ⟨exists_way_of_walk, fun ⟨_, hn, way⟩ => way.walk hn⟩

/-- A path leads to a location when there is a way to it from the root or from the
current directory that follows no more links than are allowed. -/
structure LeadsTo (fs : FileSystem) (path : String) (l : Location) : Prop where
  nonempty : path ≠ ""
  zeroFree : '\x00' ∉ path.toList
  way : ∃ links, links ≤ linkLimit ∧
    fs.Way (if Path.isAbsolute path then [] else fs.current) (steps path) links l

/-- **Resolution.**  The location found for a path is the one it leads to. -/
theorem locate_eq_ok_iff {path : String} {l : Location} :
    fs.locate path = .ok l ↔ fs.LeadsTo path l := by
  rw [locate]
  by_cases hzero : '\x00' ∈ path.toList
  · rw [if_pos (List.contains_iff_mem.mpr hzero)]
    constructor
    · intro h
      cases h
    · intro h
      exact absurd hzero h.zeroFree
  · rw [if_neg (fun h => hzero (List.contains_iff_mem.mp h))]
    by_cases hempty : path = ""
    · subst hempty
      constructor
      · intro h
        cases h
      · intro h
        exact absurd rfl h.nonempty
    · rw [if_neg (by simpa using hempty), walk_eq_ok_iff]
      exact ⟨fun h => ⟨hempty, hzero, h⟩, LeadsTo.way⟩

/-- The location that a path leads to is the only one. -/
theorem LeadsTo.unique {path : String} {l l' : Location} (h : fs.LeadsTo path l)
    (h' : fs.LeadsTo path l') : l = l' :=
  Except.ok.inj ((locate_eq_ok_iff.mpr h).symm.trans (locate_eq_ok_iff.mpr h'))

/-! ## Real locations -/

/-- Something stands at a location, looked up directory by directory from the root,
and it is no link. -/
def IsReal (fs : FileSystem) (l : Location) : Prop :=
  ∃ node, fs.at? l = some node ∧ ∀ target, node ≠ .link target

/-- The root is real. -/
theorem isReal_root : fs.IsReal [] :=
  ⟨fs.root, rfl, fun _ h => nomatch h⟩

/-- A directory is real, since no link stands where something else does. -/
theorem isReal_of_directory {place : Location} {entries : List (String × FileNode)}
    (h : fs.at? place = some (.directory entries)) : fs.IsReal place :=
  ⟨_, h, fun _ h => nomatch h⟩

/-- A directory stands at a location. -/
def DirectoryAt (fs : FileSystem) (l : Location) : Prop :=
  ∃ entries, fs.at? l = some (.directory entries)

/-- What is above a directory is one, and the root is above itself. -/
theorem DirectoryAt.dropLast {place : Location} (h : fs.DirectoryAt place) :
    fs.DirectoryAt place.dropLast := by
  rcases List.eq_nil_or_concat place with rfl | ⟨above, name, rfl⟩
  · exact h
  · obtain ⟨entries, h⟩ := h
    rw [List.concat_eq_append] at h ⊢
    rw [at?, FileNode.at?_append, Option.bind_eq_some_iff] at h
    obtain ⟨node, habove, hname⟩ := h
    obtain ⟨below, rfl, -⟩ := FileNode.at?_singleton_eq_some_iff.mp hname
    rw [List.dropLast_concat]
    exact ⟨below, habove⟩

/-- What is above something is a directory. -/
theorem isReal_dropLast {place : Location} {entries : List (String × FileNode)}
    (h : fs.at? place = some (.directory entries)) : fs.IsReal place.dropLast := by
  obtain ⟨below, habove⟩ := DirectoryAt.dropLast ⟨entries, h⟩
  exact isReal_of_directory habove

/-- What stands below a directory is what it has an entry for. -/
theorem at?_concat {place : Location} {entries : List (String × FileNode)}
    (h : fs.at? place = some (.directory entries)) (name : String) :
    fs.at? (place ++ [name]) = entries.lookup name := by
  rw [at?] at h ⊢
  rw [FileNode.at?_append, h, Option.bind_some, FileNode.at?]
  cases entries.lookup name <;> rfl

/-- **What a way keeps.**  A way that starts at a real location, or that goes at
least one step, ends at one. -/
theorem Way.isReal {place l : Location} {todo : List String} {links : Nat}
    (way : fs.Way place todo links l) (h : todo = [] → fs.IsReal place) : fs.IsReal l := by
  induction way with
  | here place => exact h rfl
  | stay hplace way ih => exact ih fun _ => isReal_of_directory hplace
  | up hplace way ih => exact ih fun _ => isReal_dropLast hplace
  | down hplace hdot hdots hsize hentry hnode way ih =>
      exact ih fun _ => ⟨_, (at?_concat hplace _).trans hentry, hnode⟩
  | follow hplace hdot hdots hsize hentry way ih =>
      apply ih
      intro _
      split
      · exact isReal_root
      · exact isReal_of_directory hplace

/-- A text with a character other than the slash has a part. -/
theorem parts_ne_nil {cs : List Char} {c : Char} (hc : c ∈ cs) (hslash : c ≠ '/') :
    Path.parts cs ≠ [] := by
  induction cs with
  | nil => cases hc
  | cons x xs ih =>
      rw [Path.parts, List.splitOn_cons_eq_if_modifyHead]
      by_cases hx : x = '/'
      · subst hx
        have hxs : c ∈ xs := (List.mem_cons.mp hc).resolve_left hslash
        simpa [Path.parts] using ih hxs
      · obtain ⟨first, more, hsplit⟩ := List.exists_cons_of_ne_nil (List.splitOn_ne_nil '/' xs)
        rw [hsplit]
        simp [hx]

/-- Every path that is not empty has a step. -/
theorem steps_ne_nil {path : String} (h : path ≠ "") : steps path ≠ [] := by
  have hlist : path.toList ≠ [] := by simpa using h
  rcases List.eq_nil_or_concat path.toList with hnil | ⟨front, last, hcs⟩
  · exact absurd hnil hlist
  · rw [List.concat_eq_append] at hcs
    by_cases hlast : last = '/'
    · simp [steps, hcs, hlast]
    · have hparts : Path.parts path.toList ≠ [] := parts_ne_nil (by simp [hcs]) hlast
      simp [steps, hparts]

/-- What a path leads to is real. -/
theorem LeadsTo.isReal {path : String} {l : Location} (h : fs.LeadsTo path l) :
    fs.IsReal l := by
  obtain ⟨links, -, way⟩ := h.way
  exact way.isReal fun hsteps => absurd hsteps (steps_ne_nil h.nonempty)

/-! ## The written form of a location -/

/-- What is written behind the first slash. -/
def innerText (l : Location) : List Char :=
  ['/'].intercalate (l.map String.toList)

/-- The written form of a location begins with a slash. -/
theorem toList_text (l : Location) : l.text.toList = '/' :: innerText l := by
  simp [Location.text, innerText, String.toList_intercalate]

/-- All that is written is slashes and names. -/
theorem mem_innerText {c : Char} {l : Location} (h : c ∈ innerText l) :
    c = '/' ∨ ∃ name ∈ l, c ∈ name.toList := by
  induction l with
  | nil => simp [innerText] at h
  | cons name rest ih =>
      cases rest with
      | nil => exact Or.inr ⟨name, List.mem_singleton_self name, by simpa [innerText] using h⟩
      | cons next more =>
          have hcons : innerText (name :: next :: more)
              = name.toList ++ '/' :: innerText (next :: more) := by
            simp [innerText, List.intercalate_cons_cons]
          rw [hcons, List.mem_append, List.mem_cons] at h
          rcases h with hname | hslash | hrest
          · exact Or.inr ⟨name, List.mem_cons_self, hname⟩
          · exact Or.inl hslash
          · rcases ih hrest with hslash | ⟨other, hother, hmem⟩
            · exact Or.inl hslash
            · exact Or.inr ⟨other, List.mem_cons_of_mem _ hother, hmem⟩

section Written

variable {l : Location} (hnames : ∀ name ∈ l, isEntryName name = true)

include hnames

/-- Cut at the slashes, the written form has the names as its pieces. -/
theorem splitOn_innerText (hne : l ≠ []) : (innerText l).splitOn '/' = l.map String.toList := by
  refine List.splitOn_intercalate '/' ?_ (by simpa using hne)
  intro cs hcs
  obtain ⟨name, hname, rfl⟩ := List.mem_map.mp hcs
  exact (isEntryName_iff.mp (hnames name hname)).2.2.2.2.1

/-- No name in a location is empty. -/
theorem nil_notMem_names : [] ∉ l.map String.toList := by
  intro hnil
  obtain ⟨name, hname, hempty⟩ := List.mem_map.mp hnil
  exact (isEntryName_iff.mp (hnames name hname)).1 (String.toList_eq_nil_iff.mp hempty)

/-- The parts of the written form are the names. -/
theorem parts_text (hne : l ≠ []) : Path.parts l.text.toList = l.map String.toList := by
  have hfirst : (l.text.toList).splitOn '/' = [] :: l.map String.toList := by
    rw [toList_text, List.splitOn_cons_eq_if_modifyHead, if_pos (beq_self_eq_true _),
      splitOn_innerText hnames hne]
  rw [Path.parts, hfirst, List.filter_cons_of_neg (by simp), List.filter_eq_self]
  intro cs hcs
  have hcsne : cs ≠ [] := fun h => nil_notMem_names hnames (h ▸ hcs)
  simpa using hcsne

/-- Only the root is written with a slash at the end. -/
theorem getLast?_text (hne : l ≠ []) : l.text.toList.getLast? ≠ some '/' := by
  intro hlast
  obtain ⟨front, hfront⟩ := List.getLast?_eq_some_iff.mp hlast
  rw [toList_text] at hfront
  apply nil_notMem_names hnames
  rw [← splitOn_innerText hnames hne]
  cases front with
  | nil =>
      have hinner : innerText l = [] := (List.cons.inj hfront).2
      simp [hinner]
  | cons c front =>
      have hinner : innerText l = front ++ '/' :: [] := (List.cons.inj hfront).2
      rw [hinner, List.splitOn_append_cons_self]
      simp

/-- The steps of the written form are the parts of the location; the root is
written as a slash alone, which asks for the directory where one is. -/
theorem steps_text : steps l.text = if l = [] then ["."] else l := by
  by_cases hne : l = []
  · subst hne
    rfl
  · rw [if_neg hne, steps]
    simp only [parts_text hnames hne, if_neg (getLast?_text hnames hne), List.map_map,
      List.append_nil]
    simp

/-- The written form has no character that paths may not have. -/
theorem zero_notMem_text : '\x00' ∉ l.text.toList := by
  intro hzero
  rw [toList_text] at hzero
  have hinner := (List.mem_cons.mp hzero).resolve_left (by decide)
  rcases mem_innerText hinner with hslash | ⟨name, hname, hmem⟩
  · exact absurd hslash (by decide)
  · exact (isEntryName_iff.mp (hnames name hname)).2.2.2.2.2 hmem

end Written

/-- A way goes through an entry that is no link. -/
theorem Way.enter {place l : Location} {name : String} {rest : List String} {links : Nat}
    {node : FileNode} (hname : isEntryName name = true)
    (hentry : fs.at? (place ++ [name]) = some node) (hnode : ∀ target, node ≠ .link target)
    (way : fs.Way (place ++ [name]) rest links l) : fs.Way place (name :: rest) links l := by
  obtain ⟨-, hdot, hdots, hsize, -, -⟩ := isEntryName_iff.mp hname
  rw [at?, FileNode.at?_append, Option.bind_eq_some_iff] at hentry
  obtain ⟨directory, hplace, hbelow⟩ := hentry
  obtain ⟨entries, rfl, hlookup⟩ := FileNode.at?_singleton_eq_some_iff.mp hbelow
  exact .down hplace hdot hdots hsize hlookup hnode way

/-- The names on the way down to what stands below a directory are a way to it
without links. -/
theorem way_of_at? {place rest : Location} {node : FileNode}
    (hnames : ∀ name ∈ rest, isEntryName name = true)
    (h : fs.at? (place ++ rest) = some node) (hnode : ∀ target, node ≠ .link target) :
    fs.Way place rest 0 (place ++ rest) := by
  induction rest generalizing place with
  | nil =>
      rw [List.append_nil]
      exact .here place
  | cons name rest ih =>
      have hsplit : place ++ name :: rest = place ++ [name] ++ rest := by simp
      rw [hsplit] at h ⊢
      have way := ih (fun other hother => hnames other (List.mem_cons_of_mem _ hother)) h
      rw [at?, FileNode.at?_append, Option.bind_eq_some_iff] at h
      obtain ⟨next, hnext, hrest⟩ := h
      refine .enter (hnames name List.mem_cons_self) hnext ?_ way
      -- nothing stands below a link, and the last of the names leads to none
      rintro target rfl
      cases rest with
      | nil =>
          obtain rfl := Option.some.inj hrest
          exact hnode target rfl
      | cons below more => cases hrest

/-- **Reading a location back.**  In a file system with proper names the written
form of a real location leads to that location. -/
theorem locate_text (hfs : fs.root.isWellNamed = true) {l : Location} (h : fs.IsReal l) :
    fs.locate l.text = .ok l := by
  obtain ⟨node, hnode, hlink⟩ := h
  have hnames := FileNode.isEntryName_of_at? hfs hnode
  have habsolute : Path.isAbsolute l.text = true := by simp [Path.isAbsolute, toList_text]
  have hnonempty : l.text ≠ "" := by
    intro hempty
    have hlist := toList_text l
    rw [hempty] at hlist
    cases hlist
  refine locate_eq_ok_iff.mpr ⟨hnonempty, zero_notMem_text hnames, 0, Nat.zero_le _, ?_⟩
  rw [if_pos habsolute, steps_text hnames]
  by_cases hroot : l = []
  · subst hroot
    exact .stay rfl (.here [])
  · rw [if_neg hroot]
    exact way_of_at? hnames hnode hlink

end FileSystem

end BookCensus
