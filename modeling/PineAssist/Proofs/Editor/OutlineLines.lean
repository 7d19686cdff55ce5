import PineAssist.Proofs.Script.DeclarationLine

/-!
# Outlines line by line

An outline is read off single lines and nothing is carried over between them. The outline of two
texts with a line feed between them is therefore that of the first one and, further down, that of
the second one. An editor is told the whole line of every symbol. The number of this line comes with
the symbol, while its text is looked up in the document again; both belong to the same line.

Numbers of lines have 32 bits, and in a document with more lines than that several lines share one.
-/

namespace PineAssist

theorem Text.lines_join (first second : String) :
    Text.lines (first ++ "\n" ++ second) = Text.lines first ++ Text.lines second := by
  have isText : (first ++ "\n" ++ second).toList = first.toList ++ '\n' :: second.toList := by
    simp
  rw [Text.lines, isText, List.splitOn_append_cons_self, List.map_append]
  rfl

namespace Editor

open Text (Line lexemes lines utf16Length)

/-- The symbol so many lines further down. -/
def Symbol.movedDown (count : Nat) (symbol : Symbol) : Symbol :=
  { symbol with line := .ofNat (symbol.line.toNat + count) }

variable {content : String} {symbol : Symbol} {uri : Uri}

theorem lineSymbols_ofNat_add (index count : Nat) (line : Line) :
    lineSymbols (.ofNat (index + count)) line =
      (lineSymbols (.ofNat index) line).map (Symbol.movedDown count) := by
  have isNumber : UInt32.ofNat ((UInt32.ofNat index).toNat + count) = .ofNat (index + count) := by
    rw [UInt32.ofNat_add, UInt32.ofNat_toNat, ← UInt32.ofNat_add]
  simp only [lineSymbols, List.map_map]
  apply List.map_congr_left
  intro declared _
  simp only [Function.comp_apply, Symbol.movedDown, isNumber]

theorem outline_join (first second : String) :
    outline (first ++ "\n" ++ second) =
      outline first ++ (outline second).map (Symbol.movedDown (lines first).length) := by
  have moved : ((lines second).mapIdx fun index line =>
      lineSymbols (.ofNat (index + (lines first).length)) line) =
        ((lines second).mapIdx fun index line => lineSymbols (.ofNat index) line).map
          (List.map (Symbol.movedDown (lines first).length)) := by
    apply List.ext_getElem?
    intro index
    simp only [List.getElem?_map, List.getElem?_mapIdx, Option.map_map, lineSymbols_ofNat_add]
    rfl
  simp only [outline, Text.lines_join, List.mapIdx_append, List.flatten_append, List.map_flatten,
    moved]

section Lines

open Lint (of_mem_subjects subjects)

theorem line_of_mem_lineSymbols {number : UInt32} {line : Line}
    (listed : symbol ∈ lineSymbols number line) : symbol.line = number := by
  rcases List.mem_map.mp listed with ⟨declared, _, rfl⟩
  rfl

/-- Every symbol comes from a line of the document. -/
theorem exists_of_mem_outline (listed : symbol ∈ outline content) :
    ∃ index, index < (lines content).length ∧ symbol.line = .ofNat index := by
  rw [outline_eq_flatMap_subjects] at listed
  rcases List.mem_flatMap.mp listed with ⟨subject, isSubject, declared⟩
  rcases of_mem_subjects isSubject with ⟨index, isLine, isNumber, _⟩
  refine ⟨index, (List.getElem?_eq_some_iff.mp isLine).1, ?_⟩
  rw [line_of_mem_lineSymbols declared, isNumber]

theorem toNat_line_lt (listed : symbol ∈ outline content) :
    symbol.line.toNat < (lines content).length := by
  rcases exists_of_mem_outline listed with ⟨index, inside, isNumber⟩
  have notAbove : (UInt32.ofNat index).toNat ≤ index := by
    rw [UInt32.toNat_ofNat']
    exact Nat.mod_le _ _
  rw [isNumber]
  omega

theorem toNat_line_movedDown (first second : String)
    (few : (lines first).length + (lines second).length ≤ UInt32.size)
    (listed : symbol ∈ outline second) :
    (symbol.movedDown (lines first).length).line.toNat =
      symbol.line.toNat + (lines first).length := by
  have inside := toNat_line_lt listed
  apply UInt32.toNat_ofNat_of_lt'
  omega

theorem outline_filter_ofNat {index : Nat} {line : Line}
    (few : (lines content).length ≤ UInt32.size) (isLine : (lines content)[index]? = some line) :
    (outline content).filter (·.line = .ofNat index) = lineSymbols (.ofNat index) line := by
  rw [outline_filter_line, Lint.linesNumbered_ofNat few isLine, List.flatMap_singleton]

theorem outline_pairwise_line_le (few : (lines content).length ≤ UInt32.size) :
    (outline content).Pairwise (·.line ≤ ·.line) := by
  rw [outline_eq_flatMap_subjects]
  apply Lint.pairwise_numberOf_subjects few
  intro subject symbol declared
  exact line_of_mem_lineSymbols declared

end Lines

section Located

variable {index : Nat} {line : Line}

/-- The symbol as an editor is told about it. -/
def Symbol.located (uri : Uri) (line : Line) (symbol : Symbol) : LocatedSymbol :=
  ⟨symbol.name, symbol.kind, uri, .onLine symbol.line 0 (utf16Length line)⟩

theorem locatedOutline_eq (uri : Uri) (content : String) :
    locatedOutline uri content = (outline content).map fun symbol =>
      symbol.located uri ((lines content)[symbol.line.toNat]?.getD []) := by
  simp only [locatedOutline, List.getElem?_toArray]
  rfl

theorem exists_line_of_mem_locatedOutline {located : LocatedSymbol}
    (listed : located ∈ locatedOutline uri content) :
    ∃ number line, (lines content)[number.toNat]? = some line ∧
      located.range = .onLine number 0 (utf16Length line) := by
  rw [locatedOutline_eq] at listed
  rcases List.mem_map.mp listed with ⟨symbol, inOutline, rfl⟩
  have isLine := List.getElem?_eq_getElem (toNat_line_lt inOutline)
  refine ⟨symbol.line, _, isLine, ?_⟩
  rw [isLine]
  rfl

/-- What is told about one line: at most one symbol for each detector, in the order of the
detectors. -/
theorem locatedOutline_filter_ofNat (uri : Uri) (few : (lines content).length ≤ UInt32.size)
    (isLine : (lines content)[index]? = some line) :
    (locatedOutline uri content).filter (·.range.start.line = .ofNat index) =
      detectors.filterMap fun detector => (detector (lexemes line)).map fun (name, kind) =>
        ⟨name, kind, uri, .onLine (.ofNat index) 0 (utf16Length line)⟩ := by
  have inside := (List.getElem?_eq_some_iff.mp isLine).1
  have isNumber : (UInt32.ofNat index).toNat = index := UInt32.toNat_ofNat_of_lt' (by omega)
  have onLine : (locatedOutline uri content).filter (·.range.start.line = .ofNat index) =
      ((outline content).filter (·.line = .ofNat index)).map fun symbol =>
        symbol.located uri ((lines content)[symbol.line.toNat]?.getD []) := by
    rw [locatedOutline_eq, List.filter_map]
    rfl
  have located : ((lineSymbols (.ofNat index) line).map fun symbol =>
      symbol.located uri ((lines content)[symbol.line.toNat]?.getD [])) =
        (lineSymbols (.ofNat index) line).map (Symbol.located uri line) := by
    apply List.map_congr_left
    intro symbol declared
    rw [line_of_mem_lineSymbols declared, isNumber, isLine, Option.getD_some]
  rw [onLine, outline_filter_ofNat few isLine, located]
  simp only [lineSymbols, declaredNames, List.map_filterMap, Option.map_map]
  rfl

end Located

/--
The outline of two texts with a line feed between them is that of the first one, followed by that of
the second one with all numbers of lines increased by the number of lines of the first one. What an
editor is told about a symbol is the whole of a line that exists, from its first column to its end.
As long as every line has a number of its own, the symbols come in the order of their lines, and
those of one line in the order of the detectors, of which each finds at most one.
-/
theorem outline_by_lines :
    (∀ first second, (lines first).length + (lines second).length ≤ UInt32.size →
      outline (first ++ "\n" ++ second) =
          outline first ++ (outline second).map (Symbol.movedDown (lines first).length) ∧
        ∀ symbol ∈ outline second, (symbol.movedDown (lines first).length).line.toNat =
          symbol.line.toNat + (lines first).length) ∧
    ∀ uri content,
      (∀ located ∈ locatedOutline uri content, ∃ number line,
        (lines content)[number.toNat]? = some line ∧
          located.range = .onLine number 0 (utf16Length line)) ∧
      ((lines content).length ≤ UInt32.size →
        (locatedOutline uri content).Pairwise (·.range.start.line ≤ ·.range.start.line) ∧
        ∀ index line, (lines content)[index]? = some line →
          (locatedOutline uri content).filter (·.range.start.line = .ofNat index) =
            detectors.filterMap fun detector => (detector (lexemes line)).map fun (name, kind) =>
              ⟨name, kind, uri, .onLine (.ofNat index) 0 (utf16Length line)⟩) := by
  constructor
  · intro first second few
    refine ⟨outline_join first second, ?_⟩
    intro symbol listed
    exact toNat_line_movedDown first second few listed
  · intro uri content
    constructor
    · intro located listed
      exact exists_line_of_mem_locatedOutline listed
    · intro few
      constructor
      · rw [locatedOutline_eq]
        apply List.pairwise_map.mpr
        exact outline_pairwise_line_le few
      · intro index line isLine
        exact locatedOutline_filter_ofNat uri few isLine

/-- A carriage return at the end of the first text belongs to the line feed between them. -/
theorem outline_by_lines_carriageReturn :
    outline ("var x = 1\r" ++ "\n" ++ "\nstrategy(); f(a) => a") =
        [⟨"x", .keptVariable, 0⟩, ⟨"Strategy", .function, 2⟩, ⟨"f", .function, 2⟩] ∧
      (locatedOutline "file:///a" "\nstrategy(); f(a) => a").filter (·.range.start.line = 1) =
        [⟨"Strategy", .function, "file:///a", ⟨⟨1, 0⟩, ⟨1, 21⟩⟩⟩,
          ⟨"f", .function, "file:///a", ⟨⟨1, 0⟩, ⟨1, 21⟩⟩⟩] := by
  have few : (lines "var x = 1\r").length + (lines "\nstrategy(); f(a) => a").length ≤
      UInt32.size := by decide +kernel
  have isLine : (lines "\nstrategy(); f(a) => a")[1]? = some "strategy(); f(a) => a".toList := by
    decide +kernel
  have joined := (outline_by_lines.1 "var x = 1\r" "\nstrategy(); f(a) => a" few).1
  have located := (outline_by_lines.2 "file:///a" "\nstrategy(); f(a) => a").2
    (Nat.le_trans (Nat.le_add_left _ _) few)
  constructor
  · rw [joined]
    decide +kernel
  · exact (located.2 1 "strategy(); f(a) => a".toList isLine).trans (by decide +kernel)

end Editor

end PineAssist
