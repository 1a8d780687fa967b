import Mathlib.Data.List.Basic
import AdminConsole.Location
import AdminConsole.Proofs.Text.Form
import AdminConsole.Proofs.Url.Parse

/-!
# Locations are read as they are written

A path that starts with a slash is no URL, and the first mark in it ends it. What stands after the
mark is a form and has no mark in it, whatever the parameters are. So a path with its parameters,
after either mark, is read as the location with these parameters, and the text of a location as the
location (`Location.written_parses_back`). -/

namespace AdminConsole

/-! ### Maps of pairs -/

section maps

variable {α : Type} (m : TextMap α) (ps : List (String × α)) (key : String)

theorem TextMap.get?_foldl_insert : (ps.foldl (fun m p => m.insert p.1 p.2) m).get? key =
    (ps.reverse.lookup key).or (m.get? key) := by
  induction ps generalizing m with
  | nil => rfl
  | cons p ps ih =>
    rw [List.foldl_cons, ih, List.reverse_cons, List.lookup_append, get?_insert, Option.or_assoc]
    congr 1
    rw [lookup_cons]
    split <;> rfl

/-- The last of several entries with one key is found. -/
theorem TextMap.get?_ofList : (ofList ps).get? key = ps.reverse.lookup key := by
  rw [ofList, get?_foldl_insert, get?_empty, Option.or_none]

end maps

namespace Location

/-- Sets parameters one after the other. -/
def withParams (l : Location) (ps : List (String × String)) : Location :=
  ps.foldl (fun l p => l.withParam p.1 p.2) l

theorem withParams_eq (l : Location) (ps : List (String × String)) : l.withParams ps =
    ⟨l.path, ps.foldl (fun m p => m.insert p.1 p.2) l.params⟩ := by
  induction ps generalizing l with
  | nil => rfl
  | cons p ps ih => exact ih (l.withParam p.1 p.2)

theorem ofPath_withParams (path : String) (ps : List (String × String)) :
    (ofPath path).withParams ps = ⟨path, .ofList ps⟩ :=
  withParams_eq (ofPath path) ps

/-- A path that a query or a fragment can be put after. -/
structure IsPath (path : String) : Prop where
  slash : path.toList.head? = some '/'
  noQuery : '?' ∉ path.toList
  noFragment : '#' ∉ path.toList
  unpadded : ∀ c ∈ path.toList.getLast?, Text.isBlank c = false

variable {path : String} {ps : List (String × String)}

/-! ### Reading a path with a form after it -/

/-- A text that starts with a slash and has no white space at its end is read as a path. -/
theorem parse_of_slash {text : String} (slash : text.toList.head? = some '/')
    (unpadded : ∀ c ∈ text.toList.getLast?, Text.isBlank c = false) :
    parse text = parsePath text := by
  have head : ∀ c ∈ text.toList.head?, Text.isBlank c = false := by
    intro c mem
    obtain rfl := Option.some.inj (slash.symm.trans mem)
    decide
  have trimmed : Text.trim text = text := by
    rw [Text.trim, Text.strip, Text.stripChars_of_ends head unpadded, String.ofList_toList]
  obtain ⟨cs, eq⟩ := List.head?_eq_some_iff.mp slash
  rw [parse, trimmed, Url.parse_of_slash eq]

/-- Where a query or a fragment starts. -/
def isMark (c : Char) : Bool := c == '?' || c == '#'

/-- The path of a location is what stands before the first mark. -/
theorem path_parsePath (text : String) : (parsePath text).path =
    String.ofList (text.toList.takeWhile fun c => !isMark c) := by
  have before : (parsePath text).path =
      String.ofList (Url.cutMark '?' (Url.cutMark '#' text.toList).1).1 := rfl
  have neither : ∀ c, decide ((!(c == '?')) = true ∧ (!(c == '#')) = true) = !isMark c := by
    intro c
    rw [isMark, Bool.not_or, Bool.decide_and, Bool.decide_eq_true, Bool.decide_eq_true]
  rw [before, Url.fst_cutMark, Url.fst_cutMark, List.takeWhile_takeWhile]
  simp only [neither]

/-- A path is read up to the mark that follows it, whatever stands after the mark. -/
theorem path_parse_of_isPath (h : IsPath path) {rest : String}
    (marked : ∀ c ∈ rest.toList.head?, isMark c = true) : (parse (path ++ rest)).path = path := by
  obtain ⟨cs, slash⟩ := List.head?_eq_some_iff.mp h.slash
  have trimmed : (Text.trim (path ++ rest)).toList =
      path.toList ++ Text.dropEndWhile Text.isBlank rest.toList := by
    rw [Text.trim, Text.strip, String.toList_ofList, String.toList_append, Text.stripChars,
      slash, List.cons_append, List.dropWhile_cons_of_neg (by decide), ← List.cons_append, ← slash,
      Text.dropEndWhile_append_of_last h.unpadded]
  have begins : (Text.trim (path ++ rest)).toList =
      '/' :: (cs ++ Text.dropEndWhile Text.isBlank rest.toList) := by
    rw [trimmed, slash]
    rfl
  have inside : ∀ c ∈ path.toList, (!isMark c) = true := by
    intro c mem
    rw [Bool.not_eq_true', isMark, Bool.or_eq_false_iff, beq_eq_false_iff_ne, beq_eq_false_iff_ne]
    exact ⟨fun eq => h.noQuery (eq ▸ mem), fun eq => h.noFragment (eq ▸ mem)⟩
  have outside : ∀ c ∈ (Text.dropEndWhile Text.isBlank rest.toList).head?,
      (!isMark c) = false := by
    intro c head
    rw [marked c (Text.mem_head?_of_dropEndWhile head)]
    rfl
  rw [parse, Url.parse_of_slash begins]
  dsimp only
  rw [path_parsePath, trimmed, Text.takeWhile_append_of_head outside,
    List.takeWhile_eq_self_iff.mpr inside, String.ofList_toList]

/-- What stands after a path does not change that the text is one, unless it ends in white space. -/
theorem parse_append (h : IsPath path) {rest : List Char}
    (unpadded : ∀ c ∈ rest.getLast?, Text.isBlank c = false) :
    parse (path ++ String.ofList rest) = parsePath (path ++ String.ofList rest) := by
  have whole : (path ++ String.ofList rest).toList = path.toList ++ rest := by
    rw [String.toList_append, String.toList_ofList]
  refine parse_of_slash ?_ fun c last => ?_
  · rw [whole, List.head?_append, h.slash]
    rfl
  · rw [whole, List.getLast?_append] at last
    cases ends : rest.getLast? with
    | none =>
      rw [ends, Option.none_or] at last
      exact h.unpadded c last
    | some d =>
      rw [ends, Option.some_or] at last
      exact Option.some.inj last ▸ unpadded d ends

/-- A path with a query and a fragment after it is read as its parts. -/
theorem parse_marked (h : IsPath path) {query fragment : Option (List Char)}
    (formedQuery : Form.IsForm query) (formedFragment : Form.IsForm fragment) :
    parse (path ++ String.ofList (Url.marked query fragment)) =
      ofParts path (query.getD []) (fragment.getD []) := by
  have unpadded : ∀ c ∈ (Url.marked query fragment).getLast?, Text.isBlank c = false := by
    intro c last
    exact Url.isBlank_of_mem_marked formedQuery formedFragment (List.mem_of_mem_getLast? last)
  rw [parse_append h unpadded, parsePath, String.toList_append, String.toList_ofList]
  simp only [Url.cutMark_fragment h.noFragment formedQuery, Url.cutMark_query h.noQuery,
    String.ofList_toList]

/-- A URL with a query and a fragment is read as its parts. -/
theorem parse_place {scheme : String} {host : List Char} {ts : List (List Char)}
    (h : Url.IsPlace scheme host ts) {query fragment : Option (List Char)}
    (formedQuery : Form.IsForm query) (formedFragment : Form.IsForm fragment) :
    parse (String.ofList (Url.place scheme host ts ++ Url.marked query fragment)) =
      ofParts (String.ofList (UrlPath.join ts)) (query.getD []) (fragment.getD []) := by
  have unblank : ∀ c ∈ Url.place scheme host ts ++ Url.marked query fragment,
      Text.isBlank c = false := by
    intro c mem
    rcases List.mem_append.mp mem with mem | mem
    · obtain ⟨inner, ascii⟩ := h.of_mem_place c mem
      exact Text.forall_ascii (P := fun c => 0x20 < c.toNat → Text.isBlank c = false) (by decide)
        ascii inner.1
    · exact Url.isBlank_of_mem_marked formedQuery formedFragment mem
  have trimmed : Text.trim (String.ofList (Url.place scheme host ts ++ Url.marked query fragment)) =
      String.ofList (Url.place scheme host ts ++ Url.marked query fragment) := by
    rw [Text.trim, Text.strip, String.toList_ofList, Text.stripChars_of_ends
      (fun c head => unblank c (List.mem_of_mem_head? head))
      fun c last => unblank c (List.mem_of_mem_getLast? last)]
  have text : ∀ form : Option (List Char),
      ((form.map String.ofList).getD "").toList = form.getD [] := by
    intro form
    cases form <;> simp
  rw [parse, trimmed]
  simp only [h.parse_marked formedQuery formedFragment, ofUrl, text]

section form

variable (h : IsPath path) (some : ps ≠ [])

theorem toList_withForm (mark : Char) : (path ++ String.singleton mark ++ Form.encode ps).toList =
    path.toList ++ mark :: (Form.encode ps).toList := by
  simp [String.toList_append]

include h some

theorem parse_withForm (mark : Char) : parse (path ++ String.singleton mark ++ Form.encode ps) =
    parsePath (path ++ String.singleton mark ++ Form.encode ps) := by
  have whole : path ++ String.singleton mark ++ Form.encode ps =
      path ++ String.ofList (mark :: (Form.encode ps).toList) := by
    rw [← String.toList_inj, toList_withForm, String.toList_append, String.toList_ofList]
  rw [whole]
  refine parse_append h fun c last => ?_
  rw [List.getLast?_cons_of_ne_nil (Form.encode_ne_nil some)] at last
  exact Form.isBlank_of_isFormChar (Form.isFormChar_of_mem_encode (List.mem_of_mem_getLast? last))

theorem parse_query_of_isPath : parse (path ++ "?" ++ Form.encode ps) = ⟨path, .ofList ps⟩ := by
  have noFragment : '#' ∉ path.toList ++ '?' :: (Form.encode ps).toList := by
    rw [List.mem_append, List.mem_cons]
    rintro (mem | mark | mem)
    · exact h.noFragment mem
    · exact absurd mark (by decide)
    · exact absurd (Form.isFormChar_of_mem_encode mem) (by decide)
  have nonempty : (Form.encode ps).toList.isEmpty = false := by
    simpa using Form.encode_ne_nil some
  rw [show "?" = String.singleton '?' from rfl, parse_withForm h some, parsePath, toList_withForm]
  simp only [Url.cutMark_of_not_mem noFragment, Url.cutMark_append h.noQuery, ofParts,
    Option.getD_some, nonempty, Bool.false_eq_true, if_false, Form.decode_encode,
    String.ofList_toList]

theorem parse_fragment_of_isPath : parse (path ++ "#" ++ Form.encode ps) = ⟨path, .ofList ps⟩ := by
  have empty : ([] : List Char).isEmpty = true := rfl
  rw [show "#" = String.singleton '#' from rfl, parse_withForm h some, parsePath, toList_withForm]
  simp only [Url.cutMark_append h.noFragment, Url.cutMark_of_not_mem h.noQuery, ofParts,
    Option.getD_some, Option.getD_none, empty, if_true, Form.decode_encode, String.ofList_toList]

end form

theorem parse_path_of_isPath (h : IsPath path) : parse path = ofPath path := by
  rw [parse_of_slash h.slash h.unpadded, parsePath]
  simp only [Url.cutMark_of_not_mem h.noFragment, Url.cutMark_of_not_mem h.noQuery,
    String.ofList_toList]
  rfl

/-! ### The law of location texts -/

/-- **What is written is read back.** A path with parameters after a question mark or a number sign
is the location on which they are set one after the other, so that the last value of a key counts;
and the text of a location is read as the location. -/
theorem written_parses_back (h : IsPath path) :
    (∀ ps : List (String × String), ps ≠ [] →
      parse (path ++ "?" ++ Form.encode ps) = (ofPath path).withParams ps ∧
      parse (path ++ "#" ++ Form.encode ps) = (ofPath path).withParams ps) ∧
    (∀ (ps : List (String × String)) (key : String),
      ((ofPath path).withParams ps).params.get? key = ps.reverse.lookup key) ∧
    ∀ l : Location, l.path = path → parse l.text = l := by
  refine ⟨fun ps some => ?_, fun ps key => ?_, fun l eq => ?_⟩
  · rw [ofPath_withParams]
    exact ⟨parse_query_of_isPath h some, parse_fragment_of_isPath h some⟩
  · rw [ofPath_withParams, TextMap.get?_ofList]
  · obtain ⟨_, params⟩ := l
    obtain rfl : _ = path := eq
    unfold text
    split
    · next empty =>
      have none : params = .empty := by
        rw [← params.ofList_toList, List.isEmpty_iff.mp empty]
        rfl
      rw [parse_path_of_isPath h, none]
      rfl
    · next some =>
      have entries : params.toList ≠ [] := fun none => some (List.isEmpty_iff.mpr none)
      rw [parse_query_of_isPath h entries, TextMap.ofList_toList]

/-- A path with white space in it, in front of keys and values with every mark in them. -/
theorem written_parses_back_marks :
    IsPath "/a b//" ∧
      parse ("/a b//" ++ "#" ++ Form.encode [("&", "#?"), ("", ""), ("&", "é +%41")]) =
        ⟨"/a b//", .ofList [("", ""), ("&", "é +%41")]⟩ ∧
      parse (text ⟨"/a b//", .ofList [("=", "\t")]⟩) = ⟨"/a b//", .ofList [("=", "\t")]⟩ := by
  have path : IsPath "/a b//" := by
    refine ⟨by decide, by decide, by decide, ?_⟩
    rintro c ⟨⟩
    rfl
  obtain ⟨forms, -, texts⟩ := written_parses_back path
  refine ⟨path, ?_, texts _ rfl⟩
  rw [(forms _ (List.cons_ne_nil _ _)).2]
  decide +kernel

end Location

end AdminConsole
