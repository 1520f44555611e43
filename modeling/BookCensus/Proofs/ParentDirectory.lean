import BookCensus.Catalog.Load
import BookCensus.Proofs.PathResolution

/-!
# The directory that holds a file

A path that leads to a file leads first to the directory in which its last part is
looked up: that directory *holds* what the path names (`Holds`).  It can be reached in
two ways.  One goes along the parts of the path without the last; the other along the
text that `Catalog.directoryOf` cuts out of the path, which is written differently:
doubled slashes and dots at its end are gone, and a bare name leaves a single dot.

Ways of both kinds agree because dots do not matter on a way to a directory
(`Way.filter_iff`), and a way along two paths joined is a way along the first and then
one along the second (`Way.append_iff`), with the links added up.

* `leadsTo_directoryOf_iff` — what `Catalog.directoryOf` cuts out leads to the directory
  that holds the file;
* `leadsTo_join_directoryOf_iff` — a relative path joined to it leads where that path
  leads from there, as long as the links on both pieces are not too many.
-/

namespace BookCensus

namespace FileSystem

variable {fs : FileSystem}

/-! ## Ways one after the other -/

/-- Split a way where its parts are split, exposing the place in between.  A link
uses up one of the links that are left, and its path comes before the split. -/
theorem Way.split_append {place l : Location} {front rest : List String} {links : Nat}
    (way : fs.Way place (front ++ rest) links l) :
    ∃ middle first second, fs.Way place front first middle ∧ fs.Way middle rest second l ∧
      links = first + second := by
  -- A link puts its own path in front of the parts, which makes them more; it leaves one link
  -- fewer, so the links come first in the induction.
  induction links using Nat.strongRecOn generalizing place front with
  | ind links ihLinks =>
      induction front generalizing place with
      | nil => exact ⟨place, 0, links, .here place, way, (Nat.zero_add _).symm⟩
      | cons part front ih =>
          rw [List.cons_append] at way
          cases way with
          | stay hplace way =>
              obtain ⟨middle, first, second, hfirst, hsecond, hlinks⟩ := ih way
              exact ⟨middle, first, second, .stay hplace hfirst, hsecond, hlinks⟩
          | up hplace way =>
              obtain ⟨middle, first, second, hfirst, hsecond, hlinks⟩ := ih way
              exact ⟨middle, first, second, .up hplace hfirst, hsecond, hlinks⟩
          | down hplace hdot hdots hsize hentry hnode way =>
              obtain ⟨middle, first, second, hfirst, hsecond, hlinks⟩ := ih way
              exact ⟨middle, first, second, .down hplace hdot hdots hsize hentry hnode hfirst,
                hsecond, hlinks⟩
          | @follow _ _ _ _ links _ hplace hdot hdots hsize target hentry way =>
              rw [← List.append_assoc] at way
              obtain ⟨middle, first, second, hfirst, hsecond, hlinks⟩ :=
                ihLinks links (Nat.lt_succ_self links) way
              exact ⟨middle, first + 1, second, .follow hplace hdot hdots hsize hentry hfirst,
                hsecond, by omega⟩

/-- Put two ways together. -/
theorem Way.append {place middle l : Location} {front rest : List String} {first second : Nat}
    (hfirst : fs.Way place front first middle) (hsecond : fs.Way middle rest second l) :
    fs.Way place (front ++ rest) (first + second) l := by
  induction hfirst with
  | here place =>
      rw [Nat.zero_add]
      exact hsecond
  | stay hplace way ih => exact .stay hplace (ih hsecond)
  | up hplace way ih => exact .up hplace (ih hsecond)
  | down hplace hdot hdots hsize hentry hnode way ih =>
      exact .down hplace hdot hdots hsize hentry hnode (ih hsecond)
  | @follow place l name todo links entries hplace hdot hdots hsize target hentry way ih =>
      have htail := ih hsecond
      rw [List.append_assoc] at htail
      rw [List.cons_append, Nat.add_right_comm]
      exact .follow hplace hdot hdots hsize hentry htail

/-- A way along two lists of parts is one along each, and the links add up. -/
theorem Way.append_iff {place l : Location} {front rest : List String} {links : Nat} :
    fs.Way place (front ++ rest) links l ↔
      ∃ middle first second, fs.Way place front first middle ∧ fs.Way middle rest second l ∧
        links = first + second := by
  constructor
  · intro way
    exact way.split_append
  · rintro ⟨middle, first, second, hfirst, hsecond, rfl⟩
    exact hfirst.append hsecond

/-- The parts of a path determine where the way along them ends. -/
theorem Way.unique {place l l' : Location} {todo : List String} {links links' : Nat}
    (way : fs.Way place todo links l) (way' : fs.Way place todo links' l') : l = l' := by
  have hwalk := way.walk (Nat.le_max_left links links')
  have hwalk' := way'.walk (Nat.le_max_right links links')
  exact Except.ok.inj (hwalk.symm.trans hwalk')

/-- All that a first part can do: a dot stays, two dots go up, and a name is that of an
entry, which is gone through or followed. -/
theorem Way.uncons {place l : Location} {part : String} {rest : List String} {links : Nat}
    (way : fs.Way place (part :: rest) links l) :
    ∃ entries, fs.at? place = some (.directory entries) ∧
      ((part = "." ∧ fs.Way place rest links l) ∨
        (part = ".." ∧ fs.Way place.dropLast rest links l) ∨
        (part ≠ "." ∧ part ≠ ".." ∧ ∃ node, entries.lookup part = some node ∧
          (∀ target, node ≠ .link target) ∧ fs.Way (place ++ [part]) rest links l) ∨
        (part ≠ "." ∧ part ≠ ".." ∧ ∃ target left, entries.lookup part = some (.link target) ∧
          links = left + 1 ∧ fs.Way (if Path.isAbsolute target then [] else place)
            (steps target ++ rest) left l)) := by
  cases way with
  | stay hplace way => exact ⟨_, hplace, Or.inl ⟨rfl, way⟩⟩
  | up hplace way => exact ⟨_, hplace, Or.inr (Or.inl ⟨rfl, way⟩)⟩
  | down hplace hdot hdots _ hentry hnode way =>
      exact ⟨_, hplace, Or.inr (Or.inr (Or.inl ⟨hdot, hdots, _, hentry, hnode, way⟩))⟩
  | follow hplace hdot hdots _ hentry way =>
      exact ⟨_, hplace, Or.inr (Or.inr (Or.inr ⟨hdot, hdots, _, _, hentry, rfl, way⟩))⟩

/-- They also determine how many links are on it. -/
theorem Way.links_unique {place l l' : Location} {todo : List String} {links links' : Nat}
    (way : fs.Way place todo links l) (way' : fs.Way place todo links' l') : links = links' := by
  induction way generalizing links' with
  | here place =>
      cases way'
      rfl
  -- The first part settles which step it is: the other way, taken apart, must begin alike.
  | stay hplace way ih =>
      obtain ⟨_, -, ⟨-, way'⟩ | ⟨hdots, -⟩ | ⟨hdot, -⟩ | ⟨hdot, -⟩⟩ := way'.uncons
      · exact ih way'
      · exact absurd hdots (by decide)
      · exact absurd rfl hdot
      · exact absurd rfl hdot
  | up hplace way ih =>
      obtain ⟨_, -, ⟨hdot, -⟩ | ⟨-, way'⟩ | ⟨-, hdots, -⟩ | ⟨-, hdots, -⟩⟩ := way'.uncons
      · exact absurd hdot (by decide)
      · exact ih way'
      · exact absurd rfl hdots
      · exact absurd rfl hdots
  | down hplace hdot hdots hsize hentry hnode way ih =>
      obtain ⟨_, hplace', ⟨hdot', -⟩ | ⟨hdots', -⟩ | ⟨-, -, _, -, -, way'⟩
        | ⟨-, -, _, _, hentry', -⟩⟩ := way'.uncons
      · exact absurd hdot' hdot
      · exact absurd hdots' hdots
      · exact ih way'
      · obtain rfl := FileNode.directory.inj (Option.some.inj (hplace.symm.trans hplace'))
        exact absurd (Option.some.inj (hentry.symm.trans hentry')) (hnode _)
  | follow hplace hdot hdots hsize hentry way ih =>
      obtain ⟨_, hplace', ⟨hdot', -⟩ | ⟨hdots', -⟩ | ⟨-, -, _, hentry', hnode, -⟩
        | ⟨-, -, _, _, hentry', rfl, way'⟩⟩ := way'.uncons
      · exact absurd hdot' hdot
      · exact absurd hdots' hdots
      · obtain rfl := FileNode.directory.inj (Option.some.inj (hplace.symm.trans hplace'))
        exact absurd (Option.some.inj (hentry'.symm.trans hentry)) (hnode _)
      · obtain rfl := FileNode.directory.inj (Option.some.inj (hplace.symm.trans hplace'))
        obtain rfl := FileNode.link.inj (Option.some.inj (hentry.symm.trans hentry'))
        rw [ih way']

/-- A way along parts that begin with those of another goes on where that ends. -/
theorem Way.after_append_iff {place middle l : Location} {front rest : List String}
    {first links : Nat} (hfirst : fs.Way place front first middle) :
    fs.Way place (front ++ rest) links l ↔
      ∃ second, fs.Way middle rest second l ∧ links = first + second := by
  constructor
  · intro way
    obtain ⟨middle', first', second, hfirst', hsecond, hlinks⟩ := way.split_append
    obtain rfl := hfirst.unique hfirst'
    obtain rfl := hfirst.links_unique hfirst'
    exact ⟨second, hsecond, hlinks⟩
  · rintro ⟨second, hsecond, rfl⟩
    exact hfirst.append hsecond

/-! ## Dots on the way to a directory -/

/-- A way to a directory starts from one. -/
theorem Way.directoryAt {place l : Location} {todo : List String} {links : Nat}
    (way : fs.Way place todo links l) (h : fs.DirectoryAt l) : fs.DirectoryAt place := by
  cases way with
  | here => exact h
  | stay hplace => exact ⟨_, hplace⟩
  | up hplace => exact ⟨_, hplace⟩
  | down hplace => exact ⟨_, hplace⟩
  | follow hplace => exact ⟨_, hplace⟩

/-- A dot in front asks for a directory and does nothing more. -/
theorem Way.dot_iff {place l : Location} {rest : List String} {links : Nat} :
    fs.Way place ("." :: rest) links l ↔ fs.DirectoryAt place ∧ fs.Way place rest links l := by
  constructor
  · intro way
    obtain ⟨entries, hplace, ⟨-, way⟩ | ⟨hdots, -⟩ | ⟨hdot, -⟩ | ⟨hdot, -⟩⟩ := way.uncons
    · exact ⟨⟨entries, hplace⟩, way⟩
    · exact absurd hdots (by decide)
    · exact absurd rfl hdot
    · exact absurd rfl hdot
  · rintro ⟨⟨entries, hplace⟩, way⟩
    exact .stay hplace way

/-- **Dots.**  On a way to a directory they can be left out. -/
theorem Way.filter_iff {place l : Location} {todo : List String} {links : Nat}
    (h : fs.DirectoryAt l) :
    fs.Way place todo links l ↔ fs.Way place (todo.filter (· ≠ ".")) links l := by
  induction todo generalizing place links with
  | nil => rfl
  | cons part rest ih =>
      by_cases hdot : part = "."
      · subst hdot
        rw [List.filter_cons_of_neg (by simp), Way.dot_iff, ← ih]
        exact and_iff_right_of_imp fun way => way.directoryAt h
      · rw [List.filter_cons_of_pos (by simpa using hdot), ← List.singleton_append,
          ← List.singleton_append (l := rest.filter _), Way.append_iff, Way.append_iff]
        simp only [ih]

end FileSystem

/-! ## Paths as texts -/

namespace Path

/-- What stands on either side of a slash is cut into parts on its own. -/
theorem parts_append_cons (above rest : List Char) :
    parts (above ++ '/' :: rest) = parts above ++ parts rest := by
  rw [parts, List.splitOn_append_cons_self, List.filter_append]
  rfl

/-- A text without slashes is one part, if it is any. -/
theorem parts_of_notMem {name : List Char} (hslash : '/' ∉ name) (hne : name ≠ []) :
    parts name = [name] := by
  rw [parts, List.splitOn_eq_singleton hslash, List.filter_cons_of_pos (by simpa using hne),
    List.filter_nil]

/-- The parts other than dots. -/
def names (path : List Char) : List (List Char) :=
  (parts path).filter (· ≠ ['.'])

/-- A slash divides the names of a path. -/
theorem names_append_cons (above rest : List Char) :
    names (above ++ '/' :: rest) = names above ++ names rest := by
  rw [names, parts_append_cons, List.filter_append]
  rfl

/-- Dropping what does not matter at the end of a path keeps its names. -/
theorem names_dropIdle (reversed : List Char) :
    names (dropIdle reversed).reverse = names reversed.reverse := by
  fun_induction dropIdle reversed with
  | case1 => rfl
  | case2 => rfl
  | case3 rest hrest ih =>
      rw [ih, List.reverse_cons, names_append_cons]
      simp [names, parts]
  | case4 => rfl
  | case5 rest hrest ih =>
      have hdot : names ['.'] = [] := by simp [names, parts_of_notMem]
      rw [ih, List.reverse_cons, List.reverse_cons, List.append_assoc, List.singleton_append,
        names_append_cons, hdot, List.append_nil]
  | case6 => rfl

/-- It also keeps where the path begins. -/
theorem getLast?_dropIdle (reversed : List Char) :
    (dropIdle reversed).getLast? = reversed.getLast? := by
  fun_induction dropIdle reversed with
  | case1 => rfl
  | case2 => rfl
  | case3 rest hrest ih =>
      rw [ih]
      cases rest with
      | nil => simp at hrest
      | cons c rest => rfl
  | case4 => rfl
  | case5 rest hrest ih =>
      rw [ih]
      cases rest with
      | nil => simp at hrest
      | cons c rest => rfl
  | case6 => rfl

/-- Of a path that is not empty something is left. -/
theorem dropIdle_ne_nil {reversed : List Char} (h : reversed ≠ []) : dropIdle reversed ≠ [] := by
  intro hnil
  have hlast := getLast?_dropIdle reversed
  rw [hnil, List.getLast?_nil] at hlast
  exact h (List.getLast?_eq_none_iff.mp hlast.symm)

/-- Nothing is added to a path. -/
theorem dropIdle_suffix (reversed : List Char) : dropIdle reversed <:+ reversed := by
  fun_induction dropIdle reversed with
  | case1 => exact List.suffix_refl _
  | case2 => exact List.suffix_refl _
  | case3 rest hrest ih => exact ih.trans (List.suffix_cons _ _)
  | case4 => exact List.suffix_cons _ _
  | case5 rest hrest ih => exact (ih.trans (List.suffix_cons _ _)).trans (List.suffix_cons _ _)
  | case6 => exact List.suffix_refl _

/-- Where a path ends in a name, nothing is dropped. -/
theorem dropIdle_append {reversed : List Char} (hne : reversed ≠ []) (hslash : '/' ∉ reversed)
    (hdot : reversed ≠ ['.']) (rest : List Char) :
    dropIdle (reversed ++ rest) = reversed ++ rest := by
  obtain ⟨c, more, rfl⟩ := List.exists_cons_of_ne_nil hne
  have hc : c ≠ '/' := fun h => hslash (h ▸ List.mem_cons_self)
  have hmore : '/' ∉ more := fun h => hslash (List.mem_cons_of_mem c h)
  have hsecond : ∀ tail, more ++ rest = '/' :: tail → c ≠ '.' := by
    rintro tail htail rfl
    cases more with
    | nil => exact hdot rfl
    | cons x more =>
        obtain rfl : x = '/' := (List.cons.inj htail).1
        exact hmore List.mem_cons_self
  rw [List.cons_append]
  apply dropIdle.eq_6
  · intro h
    cases h
  · intro h
    exact hc (List.cons.inj h).1
  · intro tail h
    exact hc (List.cons.inj h).1
  · intro h
    obtain ⟨hfirst, htail⟩ := List.cons.inj h
    exact hsecond [] htail hfirst
  · intro tail h
    obtain ⟨hfirst, htail⟩ := List.cons.inj h
    exact hsecond tail htail hfirst

end Path

namespace FileSystem

/-- The names of a path are its parts but for the dots. -/
theorem filter_map_parts (path : List Char) :
    ((Path.parts path).map String.ofList).filter (· ≠ ".")
      = (Path.names path).map String.ofList := by
  rw [Path.names, List.filter_map]
  congr 2
  funext part
  have hpart : String.ofList part = "." ↔ part = ['.'] := by
    rw [← String.toList_inj, String.toList_ofList]
    rfl
  simp [hpart]

/-- The steps of a path other than dots are its names. -/
theorem filter_steps (path : String) :
    (steps path).filter (· ≠ ".") = (Path.names path.toList).map String.ofList := by
  have hend : (if path.toList.getLast? = some '/' then ["."] else []).filter (· ≠ ".") = [] := by
    split <;> simp
  rw [steps, List.filter_append, hend, List.append_nil, filter_map_parts]

end FileSystem

/-! ## Paths that end in a name -/

/-- A path ends in a name when that is all of it or stands behind the last slash.  What
comes before the name is empty or has that slash at its end. -/
structure EndsIn (path : String) (before : List Char) (name : String) : Prop where
  spelled : path.toList = before ++ name.toList
  name_ne_empty : name ≠ ""
  slash_notMem : '/' ∉ name.toList
  before_eq : before = [] ∨ ∃ above, before = above ++ ['/']

namespace EndsIn

variable {path name : String} {before : List Char} (h : EndsIn path before name)

include h

/-- The name has characters. -/
theorem name_ne_nil : name.toList ≠ [] := by
  simpa using h.name_ne_empty

/-- The name is the last step. -/
theorem steps_eq : FileSystem.steps path = (Path.parts before).map String.ofList ++ [name] := by
  have hname : name.toList.getLast? ≠ some '/' := fun hlast =>
    h.slash_notMem (List.mem_of_getLast? hlast)
  have hlast : path.toList.getLast? ≠ some '/' := by
    rwa [h.spelled, List.getLast?_append, List.getLast?_eq_some_getLast h.name_ne_nil,
      Option.some_or, ← List.getLast?_eq_some_getLast h.name_ne_nil]
  have hparts : Path.parts path.toList = Path.parts before ++ [name.toList] := by
    rw [h.spelled, ← Path.parts_of_notMem h.slash_notMem h.name_ne_nil]
    rcases h.before_eq with rfl | ⟨above, rfl⟩
    · rfl
    · rw [← List.append_cons, Path.parts_append_cons, Path.parts_append_cons]
      simp [Path.parts]
  rw [FileSystem.steps, if_neg hlast, hparts]
  simp

variable (hdot : name ≠ ".")

include hdot

/-- Cutting the name off leaves what comes before it, less what does not matter at the
end of that. -/
theorem parent?_eq :
    Path.parent? path = some (String.ofList (Path.dropIdle before.reverse).reverse) := by
  have hname : '/' ∉ name.toList.reverse := by simpa using h.slash_notMem
  have hended : Path.dropIdle path.toList.reverse = name.toList.reverse ++ before.reverse := by
    rw [h.spelled, List.reverse_append]
    apply Path.dropIdle_append _ hname
    · intro hreversed
      exact hdot (String.toList_inj.mp (by simpa using congrArg List.reverse hreversed))
    · simpa using h.name_ne_nil
  have hcut : (name.toList.reverse ++ before.reverse).dropWhile (· ≠ '/') = before.reverse := by
    rw [List.dropWhile_append_of_pos (by
      intro c hc
      simpa using fun hslash : c = '/' => hname (hslash ▸ hc))]
    rcases h.before_eq with rfl | ⟨above, rfl⟩ <;> simp
  have hne : name.toList.reverse ++ before.reverse ≠ [] := by simp [h.name_ne_nil]
  have hnotroot : name.toList.reverse ++ before.reverse ≠ ['/'] := by
    intro hroot
    rcases List.append_eq_singleton_iff.mp hroot with ⟨hnil, -⟩ | ⟨hslash, -⟩
    · exact h.name_ne_nil (by simpa using hnil)
    · exact hname (hslash ▸ List.mem_singleton_self '/')
  rw [Path.parent?]
  simp only [hended, hcut]
  simp [hne, hnotroot]

/-- The directory of a path: what comes before the name, or a dot. -/
theorem directoryOf_eq :
    Catalog.directoryOf path =
      if before = [] then "." else String.ofList (Path.dropIdle before.reverse).reverse := by
  rw [Catalog.directoryOf, h.parent?_eq hdot]
  by_cases hbefore : before = []
  · subst hbefore
    rfl
  · have hne : Path.dropIdle before.reverse ≠ [] := Path.dropIdle_ne_nil (by simpa using hbefore)
    simp [hbefore, hne]

/-- There is always a path for the directory: if nothing comes before the name, it is a dot. -/
theorem directoryOf_ne_empty : Catalog.directoryOf path ≠ "" := by
  rw [h.directoryOf_eq hdot]
  split
  · decide
  · next hbefore =>
      have hne : Path.dropIdle before.reverse ≠ [] :=
        Path.dropIdle_ne_nil (by simpa using hbefore)
      simpa using hne

/-- It begins where the path does. -/
theorem isAbsolute_directoryOf :
    Path.isAbsolute (Catalog.directoryOf path) = Path.isAbsolute path := by
  rw [h.directoryOf_eq hdot, Path.isAbsolute, Path.isAbsolute, h.spelled]
  by_cases hbefore : before = []
  · have hname : name.toList.head? ≠ some '/' := fun hfirst =>
      h.slash_notMem (List.mem_of_mem_head? hfirst)
    rw [if_pos hbefore, hbefore, List.nil_append, decide_eq_false hname]
    rfl
  · obtain ⟨c, rest, rfl⟩ := List.exists_cons_of_ne_nil hbefore
    rw [if_neg hbefore, String.toList_ofList, List.head?_reverse, Path.getLast?_dropIdle,
      List.getLast?_reverse]
    rfl

/-- But for dots, the steps of the directory are those before the name. -/
theorem filter_steps_directoryOf :
    (FileSystem.steps (Catalog.directoryOf path)).filter (· ≠ ".")
      = ((Path.parts before).map String.ofList).filter (· ≠ ".") := by
  have hnames : Path.names (Catalog.directoryOf path).toList = Path.names before := by
    rw [h.directoryOf_eq hdot]
    by_cases hbefore : before = []
    · rw [if_pos hbefore, hbefore]
      decide
    · rw [if_neg hbefore, String.toList_ofList, Path.names_dropIdle, List.reverse_reverse]
  rw [FileSystem.filter_steps, FileSystem.filter_map_parts, hnames]

/-- No character is in the directory that is not in the path, a dot apart. -/
theorem mem_directoryOf {c : Char}
    (hc : c ∈ (Catalog.directoryOf path).toList) : c = '.' ∨ c ∈ path.toList := by
  rw [h.directoryOf_eq hdot] at hc
  split at hc
  · exact Or.inl (List.mem_singleton.mp hc)
  · rw [String.toList_ofList, List.mem_reverse] at hc
    have hbefore : c ∈ before := by
      simpa using (Path.dropIdle_suffix before.reverse).subset hc
    rw [h.spelled]
    exact Or.inr (List.mem_append_left _ hbefore)

end EndsIn

/-- A path whose last step is no dot ends in the name that is that step. -/
theorem exists_endsIn_of_steps {path name : String} {front : List String}
    (hsteps : FileSystem.steps path = front ++ [name]) (hdot : name ≠ ".") :
    ∃ before, EndsIn path before name ∧ front = (Path.parts before).map String.ofList := by
  suffices hends : ∃ before last, EndsIn path before last by
    obtain ⟨before, last, hends⟩ := hends
    rw [hends.steps_eq] at hsteps
    obtain ⟨hfront, hlast⟩ := List.append_inj' hsteps rfl
    obtain rfl := List.singleton_inj.mp hlast
    exact ⟨before, hends, hfront.symm⟩
  by_cases hslash : '/' ∈ path.toList
  · obtain ⟨reversed, rest, hreverse, hlast⟩ :=
      List.eq_append_cons_of_mem (List.mem_reverse.mpr hslash)
    have hpath : path.toList = rest.reverse ++ '/' :: reversed.reverse := by
      simpa using congrArg List.reverse hreverse
    by_cases hempty : reversed = []
    · rw [FileSystem.steps, if_pos (by simp [hpath, hempty])] at hsteps
      exact absurd (List.singleton_inj.mp (List.append_inj' hsteps rfl).2).symm hdot
    · refine ⟨rest.reverse ++ ['/'], String.ofList reversed.reverse, ?_, ?_, ?_, ?_⟩
      · simpa using hpath
      · simpa using hempty
      · simpa using hlast
      · exact Or.inr ⟨rest.reverse, rfl⟩
  · refine ⟨[], path, rfl, ?_, hslash, Or.inl rfl⟩
    rintro rfl
    simp [FileSystem.steps, Path.parts] at hsteps

/-! ## Joined paths -/

/-- A relative path is put behind a slash, and what comes before that is the other path
or that path without the slash at its end. -/
theorem Path.exists_toList_join {base path : String} (hbase : base ≠ "")
    (hpath : Path.isAbsolute path = false) :
    ∃ above, (Path.join base path).toList = above ++ '/' :: path.toList ∧
      (base.toList = above ∨ base.toList = above ++ ['/']) := by
  rw [Path.join, if_neg (by simp [hpath])]
  by_cases hend : base.toList.getLast? = some '/'
  · obtain ⟨above, habove⟩ := List.getLast?_eq_some_iff.mp hend
    refine ⟨above, ?_, Or.inr habove⟩
    rw [if_pos (by simp [hend]), String.toList_append, habove]
    simp
  · refine ⟨base.toList, ?_, Or.inl rfl⟩
    rw [if_neg (by simp [hend, hbase])]
    simp

/-- A path behind another one is not empty. -/
theorem Path.join_ne_empty {base path : String} (hbase : base ≠ "")
    (hpath : Path.isAbsolute path = false) : Path.join base path ≠ "" := by
  obtain ⟨above, hjoin, -⟩ := Path.exists_toList_join hbase hpath
  intro hempty
  simp [hempty] at hjoin

/-- Joining adds no character but a slash. -/
theorem Path.mem_join_iff {base path : String} (hbase : base ≠ "")
    (hpath : Path.isAbsolute path = false) {c : Char} (hc : c ≠ '/') :
    c ∈ (Path.join base path).toList ↔ c ∈ base.toList ∨ c ∈ path.toList := by
  obtain ⟨above, hjoin, habove⟩ := Path.exists_toList_join hbase hpath
  rw [hjoin]
  rcases habove with habove | habove <;> simp [habove, hc]

/-- The joined path begins where the first one does. -/
theorem Path.isAbsolute_join {base path : String} (hbase : base ≠ "")
    (hpath : Path.isAbsolute path = false) :
    Path.isAbsolute (Path.join base path) = Path.isAbsolute base := by
  obtain ⟨above, hjoin, habove⟩ := Path.exists_toList_join hbase hpath
  rw [Path.isAbsolute, Path.isAbsolute, hjoin]
  rcases habove with habove | habove
  · obtain ⟨c, rest, hcons⟩ := List.exists_cons_of_ne_nil (l := above) (by simpa [← habove])
    rw [habove, hcons]
    rfl
  · rw [habove]
    cases above <;> rfl

/-- The steps of the joined path: the parts of the first, and then the steps of the
second.  An empty path leaves the slash in front of it, which asks for a directory. -/
theorem FileSystem.steps_join {base path : String} (hbase : base ≠ "")
    (hpath : Path.isAbsolute path = false) :
    FileSystem.steps (Path.join base path)
      = (Path.parts base.toList).map String.ofList
        ++ (if path = "" then ["."] else FileSystem.steps path) := by
  obtain ⟨above, hjoin, habove⟩ := Path.exists_toList_join hbase hpath
  have hbaseparts : Path.parts base.toList = Path.parts above := by
    rcases habove with habove | habove
    · rw [habove]
    · rw [habove, Path.parts_append_cons]
      simp [Path.parts]
  rw [FileSystem.steps, hjoin, hbaseparts, Path.parts_append_cons]
  by_cases hempty : path = ""
  · subst hempty
    simp [Path.parts]
  · have hlast : (above ++ '/' :: path.toList).getLast? = path.toList.getLast? := by
      obtain ⟨c, rest, hcons⟩ := List.exists_cons_of_ne_nil (l := path.toList) (by simpa)
      rw [hcons]
      simp [List.getLast?_cons]
    rw [if_neg hempty, hlast, List.map_append, List.append_assoc, FileSystem.steps]

/-! ## The directory above a file -/

namespace FileSystem

variable {fs : FileSystem}

/-- A directory holds what a path names when the path without its last part leads to it
and the last is the name of an entry there.  The links that are followed are those on
the way to the directory: the entry may be a link itself, which counts no more. -/
structure Holds (fs : FileSystem) (d : Location) (path : String) (links : Nat) : Prop where
  zeroFree : '\x00' ∉ path.toList
  links_le : links ≤ linkLimit
  way : ∃ front name, steps path = front ++ [name] ∧ name ≠ "." ∧ name ≠ ".." ∧
    fs.Way (if Path.isAbsolute path then [] else fs.current) front links d ∧
    ∃ entries node, fs.at? d = some (.directory entries) ∧ entries.lookup name = some node

/-- Every file that a path leads to is looked up in a directory. -/
theorem LeadsTo.exists_holds {path : String} {l : Location} (h : fs.LeadsTo path l)
    (hfile : ¬fs.DirectoryAt l) : ∃ d links, fs.Holds d path links := by
  obtain ⟨links, hlinks, way⟩ := h.way
  obtain hnil | ⟨front, name, hsteps⟩ := List.eq_nil_or_concat (steps path)
  · exact absurd hnil (steps_ne_nil h.nonempty)
  · rw [List.concat_eq_append] at hsteps
    rw [hsteps] at way
    obtain ⟨d, first, second, hfirst, hsecond, rfl⟩ := way.split_append
    obtain ⟨entries, hd, hlast⟩ := hsecond.uncons
    have hholds : name ≠ "." → name ≠ ".." → ∀ node, entries.lookup name = some node →
        fs.Holds d path first := by
      intro hdot hdots node hnode
      exact ⟨h.zeroFree, by omega, front, name, hsteps, hdot, hdots, hfirst, entries, node, hd,
        hnode⟩
    rcases hlast with ⟨-, way⟩ | ⟨-, way⟩ | ⟨hdot, hdots, node, hnode, -⟩
      | ⟨hdot, hdots, target, -, hnode, -⟩
    · cases way
      exact absurd ⟨entries, hd⟩ hfile
    · cases way
      exact absurd (DirectoryAt.dropLast ⟨entries, hd⟩) hfile
    · exact ⟨d, first, hholds hdot hdots node hnode⟩
    · exact ⟨d, first, hholds hdot hdots (.link target) hnode⟩

/-- A file that can be read is held by a directory. -/
theorem exists_holds_of_read {path : String} {bytes : List UInt8}
    (h : fs.read path = .ok bytes) : ∃ d links, fs.Holds d path links := by
  rw [read] at h
  cases hlocate : fs.locate path with
  | error fault =>
      rw [hlocate] at h
      cases h
  | ok l =>
      rw [hlocate] at h
      apply (locate_eq_ok_iff.mp hlocate).exists_holds
      rintro ⟨entries, hl⟩
      simp only [bind, Except.bind, hl] at h
      cases h

namespace Holds

variable {d : Location} {path : String} {links : Nat} (h : fs.Holds d path links)

include h

/-- What holds something is a directory. -/
theorem directoryAt : fs.DirectoryAt d := by
  obtain ⟨_, _, -, -, -, -, entries, _, hd, -⟩ := h.way
  exact ⟨entries, hd⟩

/-- The path ends in a name. -/
theorem exists_endsIn : ∃ before name, EndsIn path before name ∧ name ≠ "." := by
  obtain ⟨front, name, hsteps, hdot, -⟩ := h.way
  obtain ⟨before, hends, -⟩ := exists_endsIn_of_steps hsteps hdot
  exact ⟨before, name, hends, hdot⟩

/-- The written form of the directory is not empty. -/
theorem directoryOf_ne_empty : Catalog.directoryOf path ≠ "" := by
  obtain ⟨before, name, hends, hdot⟩ := h.exists_endsIn
  exact hends.directoryOf_ne_empty hdot

/-- It begins at the root when the path does. -/
theorem isAbsolute_directoryOf :
    Path.isAbsolute (Catalog.directoryOf path) = Path.isAbsolute path := by
  obtain ⟨before, name, hends, hdot⟩ := h.exists_endsIn
  exact hends.isAbsolute_directoryOf hdot

/-- It has no character that paths may not have. -/
theorem zero_notMem_directoryOf : '\x00' ∉ (Catalog.directoryOf path).toList := by
  obtain ⟨before, name, hends, hdot⟩ := h.exists_endsIn
  intro hzero
  rcases hends.mem_directoryOf hdot hzero with hc | hc
  · exact absurd hc (by decide)
  · exact h.zeroFree hc

/-- A list of parts that is that of the directory but for dots leads to it. -/
theorem way_of_filter_eq {todo : List String}
    (htodo : todo.filter (· ≠ ".") = (steps (Catalog.directoryOf path)).filter (· ≠ ".")) :
    fs.Way (if Path.isAbsolute path then [] else fs.current) todo links d := by
  obtain ⟨front, name, hsteps, hdot, -, way, -⟩ := h.way
  obtain ⟨before, hends, rfl⟩ := exists_endsIn_of_steps hsteps hdot
  rw [Way.filter_iff h.directoryAt, htodo, hends.filter_steps_directoryOf hdot,
    ← Way.filter_iff h.directoryAt]
  exact way

/-- **The directory of a file.**  What is cut out of the path leads to the directory in
which the file is looked up, and nowhere else. -/
theorem leadsTo_directoryOf_iff {l : Location} :
    fs.LeadsTo (Catalog.directoryOf path) l ↔ l = d := by
  have hleads : fs.LeadsTo (Catalog.directoryOf path) d := by
    refine ⟨h.directoryOf_ne_empty, h.zero_notMem_directoryOf, links, h.links_le, ?_⟩
    rw [h.isAbsolute_directoryOf]
    exact h.way_of_filter_eq rfl
  constructor
  · intro hl
    exact hl.unique hleads
  · rintro rfl
    exact hleads

/-- **Paths from the directory of a file.**  A relative path behind what is cut out leads
where the path leads from the directory, if the links on both pieces of the way are not
too many together. -/
theorem leadsTo_join_directoryOf_iff {root : String} (hroot : Path.isAbsolute root = false)
    {l : Location} :
    fs.LeadsTo (Path.join (Catalog.directoryOf path) root) l ↔
      '\x00' ∉ root.toList ∧ ∃ more, links + more ≤ linkLimit ∧ fs.Way d (steps root) more l := by
  have hbase := h.directoryOf_ne_empty
  have hnonempty : Path.join (Catalog.directoryOf path) root ≠ "" :=
    Path.join_ne_empty hbase hroot
  have hzero : '\x00' ∉ (Path.join (Catalog.directoryOf path) root).toList ↔
      '\x00' ∉ root.toList := by
    rw [Path.mem_join_iff hbase hroot (by decide), or_iff_right h.zero_notMem_directoryOf]
  have hfirst : fs.Way (if Path.isAbsolute path then [] else fs.current)
      ((Path.parts (Catalog.directoryOf path).toList).map String.ofList) links d := by
    apply h.way_of_filter_eq
    rw [filter_steps, filter_map_parts]
  -- the way along the joined path is the way to the directory, with another from there on
  have hway : ∀ total, fs.Way (if Path.isAbsolute path then [] else fs.current)
      (steps (Path.join (Catalog.directoryOf path) root)) total l ↔
        ∃ more, fs.Way d (steps root) more l ∧ total = links + more := by
    intro total
    rw [steps_join hbase hroot, hfirst.after_append_iff]
    by_cases hempty : root = ""
    · have hsteps : steps "" = [] := rfl
      simp only [hempty, if_true, Way.dot_iff, and_iff_right h.directoryAt, hsteps]
    · rw [if_neg hempty]
  constructor
  · intro hleads
    obtain ⟨total, htotal, way⟩ := hleads.way
    rw [Path.isAbsolute_join hbase hroot, h.isAbsolute_directoryOf, hway] at way
    obtain ⟨more, way, rfl⟩ := way
    exact ⟨hzero.mp hleads.zeroFree, more, htotal, way⟩
  · rintro ⟨hrootzero, more, hlinks, way⟩
    refine ⟨hnonempty, hzero.mpr hrootzero, links + more, hlinks, ?_⟩
    rw [Path.isAbsolute_join hbase hroot, h.isAbsolute_directoryOf, hway]
    exact ⟨more, way, rfl⟩

end Holds

end FileSystem

end BookCensus
