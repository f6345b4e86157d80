import TapeLang.Proofs.Program.Reading

/-!
# The annotated reader and the plain reader agree

`AnnotatedProgram.ofStream` and `Program.ofStream` are two readers with two stacks of unfinished
bodies.  They walk through the same context, so that they stand at the same place after every item;
what the plain reader holds is what the annotated one holds with the tokens and the cancelled runs
erased.

* `Annotated.eraseList_eq_filterMap`: erasing is a filter, so it commutes with turning a body around.
* `AnnotatedProgram.erase_readBodies`: the two readers in lockstep, from any stack of bodies.
* **`AnnotatedProgram.erase_ofStream`**: whole streams.
-/

namespace TapeLang

/-! ## Erasing lists -/

namespace Annotated

lemma eraseList_eq_filterMap (nodes : List Annotated) :
    eraseList nodes = nodes.filterMap erase? := by
  induction nodes with
  | nil => rfl
  | cons node more ih =>
    rw [eraseList, List.filterMap_cons, ih]
    cases node.erase? <;> rfl

lemma eraseList_reverse (nodes : List Annotated) :
    eraseList nodes.reverse = (eraseList nodes).reverse := by
  rw [eraseList_eq_filterMap, eraseList_eq_filterMap, List.filterMap_reverse]

/-- A run is erased to its instruction, or to nothing when it cancels. -/
lemma eraseList_run (run : Run) (body : List Annotated) :
    eraseList (.act run.action run.tokens :: body) =
      if run.sum = 0 then eraseList body else .act run.action :: eraseList body := by
  by_cases hzero : run.sum = 0
  · have haction : run.action = .nop := by rw [Run.action, if_pos hzero]
    rw [if_pos hzero, haction, eraseList, erase?]
  · rw [if_neg hzero]
    cases haxis : run.axis with
    | pointer =>
      have haction : run.action = .move run.sum := by rw [Run.action, if_neg hzero, haxis]
      rw [haction, eraseList, erase?]
      simp
    | data =>
      have haction : run.action = .add run.sum := by rw [Run.action, if_neg hzero, haxis]
      rw [haction, eraseList, erase?]
      simp

lemma eraseList_loop (nodes : List Annotated) (tokens : List Token) (body : List Annotated) :
    eraseList (.loop nodes tokens :: body) = .loop (eraseList nodes) :: eraseList body := by
  simp only [eraseList, erase?]

end Annotated

/-! ## Lockstep -/

namespace AnnotatedProgram

/-- **The readers in lockstep.**  From any unfinished bodies, the plain reader reads the erasure of what
the annotated reader reads, and fails as it fails. -/
theorem erase_readBodies (body : List Annotated) (outer : List Opening) (context : Pushback) :
    (readBodies body outer context).map erase =
      Program.readBodies (Annotated.eraseList body)
        (outer.map fun opening => Annotated.eraseList opening.parent) context := by
  fun_induction readBodies body outer context with
  | case1 body outer context e after h =>
    rw [Program.readBodies_eq, h]
    rfl
  | case2 body context pos after h =>
    rw [Program.readBodies_eq, h]
    simp only [Except.map, erase, Annotated.eraseList_reverse, List.map_nil]
  | case3 body context pos after h opening outer =>
    rw [Program.readBodies_eq, h]
    rfl
  | case4 body outer context token after h _ hkind ih =>
    rw [ih, Program.readBodies_eq _ _ context, h]
    simp only [hkind, Annotated.eraseList, Annotated.erase?]
  | case5 body outer context token after h _ hkind ih =>
    rw [ih, Program.readBodies_eq _ _ context, h]
    simp only [hkind, Annotated.eraseList, Annotated.erase?]
  | case6 body outer context token after h _ hkind ih =>
    rw [ih, Program.readBodies_eq _ _ context, h]
    simp only [hkind, List.map_cons, Annotated.eraseList]
  | case7 body context token after h _ hkind =>
    rw [Program.readBodies_eq, h]
    simp only [hkind]
    rfl
  | case8 body context token after h _ hkind opening outer ih =>
    simp only [List.unattach_reverse, List.unattach_attach] at ih
    rw [ih, Program.readBodies_eq _ _ context, h]
    simp only [hkind, List.map_cons, closeLoop, Annotated.eraseList_loop, Annotated.eraseList_reverse]
  | case9 body outer context token after h _ e behind hrun hout hin hhead htail =>
    rw [Program.readBodies_eq, h]
    simp only [hrun]
    rfl
  | case10 body outer context token after h _ run behind hrun _ hout hin hhead htail ih =>
    rw [ih, Program.readBodies_eq _ _ context, h, Annotated.eraseList_run]
    simp only [hrun]

/-- **The annotated reader erases to the plain one.**  On every token stream the two readers succeed
together, and then the annotated program with its tokens and cancelled runs erased is the plain
program; otherwise they fail with one and the same error, and it is an error of the source: its
cause and its position, and so its wording, are the same.  `Lexer.parseAnnotated` and `Lexer.parse`
are the two readers on the stream of a source text. -/
theorem erase_ofStream (stream : TokenStream) :
    (ofStream stream).map erase = Program.ofStream stream ∧
    ∀ failure, Program.ofStream stream = .error failure → ∃ e : ParseError, failure = .source e := by
  refine ⟨erase_readBodies [] [] (.ofStream stream), ?_⟩
  intro failure h
  exact Program.readBodies_failure [] [] (.ofStream stream) h

end AnnotatedProgram

end TapeLang
