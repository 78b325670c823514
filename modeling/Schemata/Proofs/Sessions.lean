import Mathlib.Data.List.Basic
import Schemata.Proofs.Episodes

/-!
# Sessions are released

Every operation makes no call, or is refused a session, or opens one session and closes it
with its last call; in between it sends statements until one fails, and then makes one lookup
at most (`IsBlock`).  So the calls of any number of operations come in turn, each session is
closed before the next is opened, and after every operation as many sessions have been closed
as were opened (`runAll_releases_sessions`).
-/

namespace Schemata

namespace Exchange

/-- The call opened a session. -/
def opens : Exchange → Bool
  | ⟨.connect, .ok ()⟩ => true
  | _ => false

def closes : Exchange → Bool
  | ⟨.close, _⟩ => true
  | _ => false

/-- Whether a session is open after a call that comes in turn, if one was open before or was
not.  A session is opened only while none is open, and is used and closed only while it is. -/
def turn : Bool → Exchange → Option Bool
  | false, ⟨.connect, .ok ()⟩ => some true
  | false, ⟨.connect, .error _⟩ => some false
  | true, ⟨.execute _, _⟩ => some true
  | true, ⟨.lookup _, _⟩ => some true
  | true, ⟨.close, _⟩ => some false
  | _, _ => none

end Exchange

/-- The calls of a session between the statements that were carried out and the close. -/
inductive IsEnding : List Exchange → Prop
  | nothing : IsEnding []
  | refused (statement : Statement) (fault : Fault) : IsEnding [⟨.execute statement, .error fault⟩]
  | lookup (name : String) (reply : Except Fault (Option Record)) :
    IsEnding [⟨.lookup name, reply⟩]

/-- The calls that one operation may make. -/
inductive IsBlock : List Exchange → Prop
  | nothing : IsBlock []
  | unconnected (fault : Fault) : IsBlock [⟨.connect, .error fault⟩]
  | session (done : List Statement) {ending : List Exchange} (hending : IsEnding ending) :
    IsBlock (⟨.connect, .ok ()⟩ ::
      (done.map Statement.carriedOut ++ ending ++ [⟨.close, ()⟩]))

/-! ## The calls of one operation -/

theorem Resource.Sends.exists_ending {statements : List Statement} {resource : Resource}
    {episode : Episode} (h : Sends statements resource episode) :
    ∃ (done : List Statement) (ending : List Exchange), IsEnding ending ∧
      episode.trace = done.map Statement.carriedOut ++ ending ++ [⟨.close, ()⟩] := by
  induction h with
  | readBack hread =>
    cases hread with
    | unnamed hid => exact ⟨[], [], .nothing, rfl⟩
    | found record hid => exact ⟨[], _, .lookup _ _, rfl⟩
    | missing hid => exact ⟨[], _, .lookup _ _, rfl⟩
    | failed fault hid => exact ⟨[], _, .lookup _ _, rfl⟩
  | refused statement rest resource fault => exact ⟨[], _, .refused statement fault, rfl⟩
  | carriedOut statement hrest ih =>
    obtain ⟨done, ending, hending, htrace⟩ := ih
    exact ⟨statement :: done, ending, hending, congrArg _ htrace⟩

theorem Operation.Admits.isBlock {operation : Operation} {resource : Resource}
    {episode : Episode} (h : operation.Admits resource episode) : IsBlock episode.trace := by
  cases h with
  | rejected hagenda => exact .nothing
  | settled hagenda => exact .nothing
  | unconnected fault hagenda => exact .unconnected fault
  | session hagenda hsends =>
    obtain ⟨done, ending, hending, htrace⟩ := hsends.exists_ending
    rw [Episode.prepend, htrace]
    exact .session done hending

theorem isBlock_of_mem_runAll {σ : Type} {server : Server σ}
    {tasks : List (Operation × Resource)} {state : σ} {run : Run σ}
    (hrun : run ∈ Operation.runAll server tasks state) : IsBlock run.trace := by
  obtain ⟨operation, resource, episode, hadmits, hfollows⟩ :=
    Operation.exists_episode_of_mem_runAll hrun
  rw [hfollows.trace]
  exact hadmits.isBlock

/-! ## What a block does to the sessions -/

theorem foldlM_turn_map_carriedOut (done : List Statement) :
    (done.map Statement.carriedOut).foldlM Exchange.turn true = some true := by
  induction done with
  | nil => rfl
  | cons statement rest ih => exact ih

theorem IsEnding.foldlM_turn {ending : List Exchange} (h : IsEnding ending) :
    ending.foldlM Exchange.turn true = some true := by
  cases h <;> rfl

/-- The calls of a block come in turn, and leave no session open. -/
theorem IsBlock.foldlM_turn {block : List Exchange} (h : IsBlock block) :
    block.foldlM Exchange.turn false = some false := by
  cases h with
  | nothing => rfl
  | unconnected fault => rfl
  | session done hending =>
    change List.foldlM Exchange.turn true _ = some false
    rw [List.foldlM_append, List.foldlM_append, foldlM_turn_map_carriedOut]
    simp only [Option.bind_eq_bind, Option.bind_some, hending.foldlM_turn]
    rfl

theorem IsEnding.countP {ending : List Exchange} (h : IsEnding ending) :
    ending.countP Exchange.opens = 0 ∧ ending.countP Exchange.closes = 0 := by
  cases h with
  | nothing => exact ⟨rfl, rfl⟩
  | refused statement fault => exact ⟨rfl, rfl⟩
  | lookup name reply => exact ⟨rfl, rfl⟩

theorem countP_map_carriedOut (done : List Statement) :
    (done.map Statement.carriedOut).countP Exchange.opens = 0 ∧
      (done.map Statement.carriedOut).countP Exchange.closes = 0 := by
  induction done with
  | nil => exact ⟨rfl, rfl⟩
  | cons statement rest ih => exact ih

/-- A block opens one session at most, and closes what it opens. -/
theorem IsBlock.countP {block : List Exchange} (h : IsBlock block) :
    block.countP Exchange.opens ≤ 1 ∧
      block.countP Exchange.closes = block.countP Exchange.opens := by
  cases h with
  | nothing => exact ⟨Nat.zero_le 1, rfl⟩
  | unconnected fault => exact ⟨Nat.zero_le 1, rfl⟩
  | session done hending =>
    obtain ⟨hdone, hdone'⟩ := countP_map_carriedOut done
    obtain ⟨hopens, hcloses⟩ := hending.countP
    simp [List.countP_cons, hdone, hdone', hopens, hcloses, Exchange.opens, Exchange.closes]

/-! ## The calls of several operations -/

theorem foldlM_turn_flatten {blocks : List (List Exchange)}
    (hblocks : ∀ block ∈ blocks, IsBlock block) :
    blocks.flatten.foldlM Exchange.turn false = some false := by
  induction blocks with
  | nil => rfl
  | cons block rest ih =>
    obtain ⟨hblock, hrest⟩ := List.forall_mem_cons.mp hblocks
    rw [List.flatten_cons, List.foldlM_append, hblock.foldlM_turn]
    exact ih hrest

theorem countP_flatten {blocks : List (List Exchange)}
    (hblocks : ∀ block ∈ blocks, IsBlock block) :
    blocks.flatten.countP Exchange.closes = blocks.flatten.countP Exchange.opens := by
  induction blocks with
  | nil => rfl
  | cons block rest ih =>
    obtain ⟨hblock, hrest⟩ := List.forall_mem_cons.mp hblocks
    rw [List.flatten_cons, List.countP_append, List.countP_append, hblock.countP.2, ih hrest]

/-- The calls of any number of operations are one block for each of them.  So no operation
opens two sessions, after every operation as many sessions are closed as were opened, and
every call comes in turn: none uses a session that is not open, or no longer. -/
theorem runAll_releases_sessions {σ : Type} (server : Server σ)
    (tasks : List (Operation × Resource)) (state : σ) :
    let blocks := (Operation.runAll server tasks state).map Run.trace
    blocks.length = tasks.length ∧
    (∀ block ∈ blocks, IsBlock block ∧ block.countP Exchange.opens ≤ 1) ∧
    (∀ count, (blocks.take count).flatten.countP Exchange.closes =
      (blocks.take count).flatten.countP Exchange.opens) ∧
    blocks.flatten.foldlM Exchange.turn false = some false := by
  intro blocks
  have hblocks : ∀ block ∈ blocks, IsBlock block := by
    intro block hblock
    obtain ⟨run, hrun, rfl⟩ := List.mem_map.mp hblock
    exact isBlock_of_mem_runAll hrun
  refine ⟨?_, ?_, ?_, ?_⟩
  · rw [List.length_map, Operation.length_runAll]
  · intro block hblock
    exact ⟨hblocks block hblock, (hblocks block hblock).countP.1⟩
  · intro count
    exact countP_flatten fun block hblock => hblocks block (List.mem_of_mem_take hblock)
  · exact foldlM_turn_flatten hblocks

end Schemata
