import Ibctl.Dashboard.StatusFeed

/-! What the status feed promises, over all its runs: the statuses arrive in the order in which they were
published, and a connection that lives catches up with the latest one. -/
namespace Ibctl.Dashboard
open Agent (document Readable)

section Invariant

namespace SubscriptionFeed

/-- The status is a document, and the counter of the versions has room for another one. -/
def Publishable (f : SubscriptionFeed) : SubscriptionEvent → Prop
  | .publish status => Readable 126 (.object status) ∧ f.latest.version + 1 < 2 ^ 64
  | _ => True

/-- The snapshot was published. -/
structure Known (published : List (List (String × Json))) (s : QuerySnapshot) : Prop where
  at_ : published[s.publishedAt]? = some s.status
  status : Readable 126 (.object s.status)
  version : s.version < 2 ^ 64

def placesOf (wire : List FeedLine) : List Nat := wire.filterMap fun line => line.carried.map (·.publishedAt)

/-- When the snapshots on the way were published. -/
def places (c : Option Connection) : List Nat := (c.map fun c => placesOf c.wire).getD []

/-- The status is the one that was published after so many others. -/
def Was (published : List (List (String × Json))) (i : Nat) (status : Json) : Prop :=
  ∃ members, published[i]? = some members ∧ status = .object members

/-- What holds of the server and of the connection. -/
structure Sound (f : SubscriptionFeed) : Prop where
  latest : Known f.published f.latest
  length : f.published.length = f.latest.publishedAt + 1
  changes : f.changes = f.latest.version
  wire : ∀ c, f.connection = some c → ∀ line ∈ c.wire, ∀ s, line.carried = some s → Known f.published s
  waits : ∀ c, f.connection = some c → f.client.Waits
  asks : ∀ c, f.connection = some c → c.asks = true → c.wire = [] ∧ c.closed = false
  subscribed : ∀ h, f.subscription = some h → h.seen = h.lastVersion ∧ h.lastVersion ≤ f.latest.version ∧
    ∃ c, f.connection = some c ∧ c.asks = false ∧ c.closed = false ∧ FeedLine.refusal ∉ c.wire

/-- The statuses handed over, by when they were published, and those on the way behind them. The last of all
is the one that the server's task has written last. -/
structure Placed (f : SubscriptionFeed) (taken : List Nat) : Prop where
  handed : List.Forall₂ (Was f.published) taken f.handed
  sorted : (taken ++ places f.connection).Pairwise (· ≤ ·)
  bound : ∀ i ∈ taken ++ places f.connection, i ≤ f.latest.publishedAt
  current : ∀ h, f.subscription = some h → ∃ i ∈ (taken ++ places f.connection).getLast?,
    i + f.latest.version = f.latest.publishedAt + h.lastVersion

theorem Known.grow {published : List (List (String × Json))} {s : QuerySnapshot} (known : Known published s)
    (status : List (String × Json)) : Known (published ++ [status]) s := by
  obtain ⟨within,-⟩ := List.getElem?_eq_some_iff.mp known.at_
  exact ⟨(List.getElem?_append_left within).trans known.at_,known.status,known.version⟩

theorem known_new {published : List (List (String × Json))} {status : List (String × Json)} {version : Nat}
    (readable : Readable 126 (.object status)) (small : version < 2 ^ 64) :
    Known (published ++ [status]) ⟨status,version,published.length⟩ := ⟨List.getElem?_concat_length,readable,small⟩

theorem readable_state (state : String) (ready : Bool) :
    Readable 126 (.object [("state",.string state),("ready",.bool ready)]) := by
  refine Agent.readable_object rfl ?_
  simp only [List.forall_mem_cons,Agent.readable_string,Agent.readable_bool,true_and,List.not_mem_nil,false_implies,
    implies_true]

theorem readable_initializing : Readable 126 (.object initializingStatus) := readable_state "Initializing" false

theorem start_sound : start.Sound where
  latest := ⟨rfl,readable_initializing,by decide⟩
  length := rfl
  changes := rfl
  wire := fun c none_ => by cases none_
  waits := fun c none_ => by cases none_
  asks := fun c none_ => by cases none_
  subscribed := fun h none_ => by cases none_

theorem start_placed : start.Placed [] where
  handed := .nil
  sorted := .nil
  bound := fun i among => absurd among List.not_mem_nil
  current := fun h none_ => by cases none_

variable {f : SubscriptionFeed} {taken : List Nat}

section Server

theorem publish_sound (sound : f.Sound) {status : List (String × Json)} (readable : Readable 126 (.object status))
    (small : f.latest.version + 1 < 2 ^ 64) : (f.publish status).Sound where
  latest := known_new readable small
  length := List.length_append
  changes := congrArg (· + 1) sound.changes
  wire := fun c same line among s carried => (sound.wire c same line among s carried).grow status
  waits := sound.waits
  asks := sound.asks
  subscribed := fun h same => by
    obtain ⟨seen,low,rest⟩ := sound.subscribed h same
    exact ⟨seen,Nat.le_succ_of_le low,rest⟩

theorem handed_grow {published : List (List (String × Json))} {handed : List Json} (status : List (String × Json))
    (all : List.Forall₂ (Was published) taken handed) : List.Forall₂ (Was (published ++ [status])) taken handed := by
  refine all.imp fun i status' ⟨members,at_,same⟩ => ⟨members,?_,same⟩
  obtain ⟨within,-⟩ := List.getElem?_eq_some_iff.mp at_
  exact (List.getElem?_append_left within).trans at_

theorem publish_placed (sound : f.Sound) (placed : f.Placed taken) (status : List (String × Json)) :
    (f.publish status).Placed taken where
  handed := handed_grow status placed.handed
  sorted := placed.sorted
  bound := fun i among => Nat.le_trans (placed.bound i among) (Nat.le_of_succ_le sound.length.ge)
  current := fun h same => by
    obtain ⟨i,last,gap⟩ := placed.current h same
    refine ⟨i,last,?_⟩
    change i + (f.latest.version + 1) = f.published.length + h.lastVersion
    rw [sound.length]
    omega

theorem close_connection : places f.close.connection = places f.connection := by
  unfold close places
  cases f.connection <;> rfl

theorem close_sound (sound : f.Sound) : f.close.Sound := by
  have before {c : Connection} (same : f.close.connection = some c) :
      ∃ c', f.connection = some c' ∧ c.wire = c'.wire ∧ c.asks = false := by
    obtain ⟨c',known,rfl⟩ := Option.map_eq_some_iff.mp same
    exact ⟨c',known,rfl,rfl⟩
  refine ⟨sound.latest,sound.length,sound.changes,?_,?_,?_,fun h none_ => by cases none_⟩
  · intro c same line among
    obtain ⟨c',known,wire,-⟩ := before same
    exact sound.wire c' known line (wire ▸ among)
  · intro c same
    obtain ⟨c',known,-⟩ := before same
    exact sound.waits c' known
  · intro c same asks
    obtain ⟨-,-,-,silent⟩ := before same
    exact absurd (silent.symm.trans asks) Bool.noConfusion

theorem close_placed (placed : f.Placed taken) : f.close.Placed taken where
  handed := placed.handed
  sorted := by rw [close_connection]; exact placed.sorted
  bound := by rw [close_connection]; exact placed.bound
  current := fun h none_ => by cases none_

theorem restart_sound (sound : f.Sound) : f.restart.Sound := by
  have closed := close_sound sound
  exact {
    latest := known_new readable_initializing (by decide)
    length := List.length_append
    changes := rfl
    wire := fun c same line among s carried => (closed.wire c same line among s carried).grow initializingStatus
    waits := closed.waits
    asks := closed.asks
    subscribed := fun h none_ => by cases none_ }

theorem restart_placed (sound : f.Sound) (placed : f.Placed taken) : f.restart.Placed taken := by
  have closed := close_placed placed
  exact {
    handed := handed_grow initializingStatus placed.handed
    sorted := closed.sorted
    bound := fun i among => Nat.le_trans (closed.bound i among) (Nat.le_of_succ_le sound.length.ge)
    current := fun h none_ => by cases none_ }

theorem placesOf_append (wire : List FeedLine) (line : FeedLine) :
    placesOf (wire ++ [line]) = placesOf wire ++ (line.carried.map (·.publishedAt)).toList := by
  unfold placesOf
  rw [List.filterMap_append]
  cases line <;> rfl

/-- The server writes a line that carries the latest snapshot or none. -/
theorem write_wire (sound : f.Sound) {c : Connection} (same : f.connection = some c) {line : FeedLine}
    (latest : ∀ s, line.carried = some s → s = f.latest) : ∀ other ∈ c.wire ++ [line], ∀ s, other.carried = some s →
      Known f.published s := by
  intro other among s carried
  rcases List.mem_append.mp among with before | last
  · exact sound.wire c same other before s carried
  · rw [List.mem_singleton.mp last] at carried
    rw [latest s carried]
    exact sound.latest

/-- A line behind the others keeps the order. -/
theorem write_sorted {wire : List FeedLine} (sorted : (taken ++ placesOf wire).Pairwise (· ≤ ·))
    (bound : ∀ i ∈ taken ++ placesOf wire, i ≤ f.latest.publishedAt) {line : FeedLine}
    (latest : ∀ s, line.carried = some s → s = f.latest) :
    (taken ++ placesOf (wire ++ [line])).Pairwise (· ≤ ·) ∧
      ∀ i ∈ taken ++ placesOf (wire ++ [line]), i ≤ f.latest.publishedAt := by
  rw [placesOf_append,← List.append_assoc]
  have last : ∀ i ∈ (line.carried.map (·.publishedAt)).toList, i = f.latest.publishedAt := by
    intro i among
    obtain ⟨s,carried,rfl⟩ := Option.map_eq_some_iff.mp (Option.mem_toList.mp among)
    rw [latest s carried]
  refine ⟨List.pairwise_append.mpr ⟨sorted,?_,fun i before j behind => last j behind ▸ bound i before⟩,?_⟩
  · cases line.carried.map (·.publishedAt) with
    | none => exact .nil
    | some i => exact List.pairwise_singleton _ i
  · intro i among
    rcases List.mem_append.mp among with before | behind
    · exact bound i before
    · exact (last i behind).le

theorem subscribe_sound (sound : f.Sound) : f.subscribe.Sound := by
  unfold subscribe
  split
  · rename_i wire closed same
    have empty := sound.asks _ same rfl
    exact {
      latest := sound.latest
      length := sound.length
      changes := sound.changes
      wire := fun c known => by
        rw [← Option.some.inj known]
        exact write_wire sound same fun s carried => (Option.some.inj carried).symm
      waits := fun c _ => sound.waits _ same
      asks := fun c known asks => by
        rw [← Option.some.inj known] at asks
        cases asks
      subscribed := fun h known => by
        rw [← Option.some.inj known]
        refine ⟨sound.changes,le_rfl,_,rfl,rfl,empty.2,?_⟩
        dsimp only at empty ⊢
        rw [empty.1]
        simp }
  · exact sound

theorem subscribe_placed (placed : f.Placed taken) : f.subscribe.Placed taken := by
  unfold subscribe
  split
  · rename_i wire closed same
    have shape : places f.connection = placesOf wire := by rw [same]; rfl
    have sorted := placed.sorted
    have bound := placed.bound
    rw [shape] at sorted bound
    have kept := @write_sorted f taken wire sorted bound (.snapshot f.latest) fun s carried => (Option.some.inj carried).symm
    refine ⟨placed.handed,kept.1,kept.2,fun h known => ⟨f.latest.publishedAt,?_,?_⟩⟩
    · change _ ∈ (taken ++ placesOf (wire ++ [.snapshot f.latest])).getLast?
      rw [placesOf_append,← List.append_assoc]
      exact List.getLast?_concat
    · rw [← Option.some.inj known]
  · exact placed

/-- A connection that asks has no subscription. -/
theorem unsubscribed (sound : f.Sound) {c : Connection} (same : f.connection = some c) (asks : c.asks = true) :
    f.subscription = none := by
  refine Option.eq_none_iff_forall_not_mem.mpr fun h known => ?_
  obtain ⟨-,-,c',same',silent,-⟩ := sound.subscribed h known
  rw [same] at same'
  rw [Option.some.inj same',silent] at asks
  cases asks

theorem refuse_sound (sound : f.Sound) : f.refuse.Sound := by
  unfold refuse
  split
  · rename_i wire closed same
    have none_ := unsubscribed sound same rfl
    exact {
      latest := sound.latest
      length := sound.length
      changes := sound.changes
      wire := fun c known => by
        rw [← Option.some.inj known]
        exact @write_wire f sound _ same .refusal fun s none_ => by cases none_
      waits := fun c _ => sound.waits _ same
      asks := fun c known asks => by
        rw [← Option.some.inj known] at asks
        cases asks
      subscribed := fun h known => by
        rw [none_] at known
        cases known }
  · exact sound

theorem refuse_placed (sound : f.Sound) (placed : f.Placed taken) : f.refuse.Placed taken := by
  unfold refuse
  split
  · rename_i wire closed same
    have none_ := unsubscribed sound same rfl
    have shape : places (write .refusal ⟨wire,false,true⟩) = places f.connection := by
      rw [same]
      exact (placesOf_append wire .refusal).trans (List.append_nil _)
    exact {
      handed := placed.handed
      sorted := by rw [shape]; exact placed.sorted
      bound := by rw [shape]; exact placed.bound
      current := fun h known => by
        rw [none_] at known
        cases known }
  · exact placed

theorem keepalive_sound (sound : f.Sound) : f.keepalive.Sound := by
  unfold keepalive
  split
  · rename_i h c subscribed same
    obtain ⟨seen,low,c',same',silent,open_,accepted⟩ := sound.subscribed h subscribed
    rw [same] at same'
    obtain rfl := Option.some.inj same'
    exact {
      latest := sound.latest
      length := sound.length
      changes := sound.changes
      wire := fun c known => by
        rw [← Option.some.inj known]
        exact @write_wire f sound _ same .keepalive fun s none_ => by cases none_
      waits := fun c _ => sound.waits _ same
      asks := fun c known asks => by
        rw [← Option.some.inj known] at asks
        exact absurd (silent.symm.trans asks) Bool.noConfusion
      subscribed := fun h' known => by
        rw [subscribed] at known
        rw [← Option.some.inj known]
        refine ⟨seen,low,_,rfl,silent,open_,?_⟩
        simpa using accepted }
  · exact sound

theorem keepalive_placed (placed : f.Placed taken) : f.keepalive.Placed taken := by
  unfold keepalive
  split
  · rename_i h c subscribed same
    have shape : places (write .keepalive c) = places f.connection := by
      rw [same]
      exact (placesOf_append c.wire .keepalive).trans (List.append_nil _)
    exact {
      handed := placed.handed
      sorted := by rw [shape]; exact placed.sorted
      bound := by rw [shape]; exact placed.bound
      current := fun h known => by rw [shape]; exact placed.current h known }
  · exact placed

theorem changed_sound (sound : f.Sound) : f.changed.Sound := by
  unfold changed
  split
  · rename_i h c subscribed same
    obtain ⟨seen,low,c',same',silent,open_,accepted⟩ := sound.subscribed h subscribed
    rw [same] at same'
    obtain rfl := Option.some.inj same'
    split
    · exact sound
    rename_i behind
    rw [sound.changes,seen] at behind
    rw [if_neg (Ne.symm behind)]
    exact {
      latest := sound.latest
      length := sound.length
      changes := sound.changes
      wire := fun c known => by
        rw [← Option.some.inj known]
        exact write_wire sound same fun s carried => (Option.some.inj carried).symm
      waits := fun c _ => sound.waits _ same
      asks := fun c known asks => by
        rw [← Option.some.inj known] at asks
        exact absurd (silent.symm.trans asks) Bool.noConfusion
      subscribed := fun h' known => by
        rw [← Option.some.inj known]
        refine ⟨sound.changes,le_rfl,_,rfl,silent,open_,?_⟩
        simpa using accepted }
  · exact sound

/-- Having changed, the channel has another version, which is written. -/
theorem changed_placed (sound : f.Sound) (placed : f.Placed taken) : f.changed.Placed taken := by
  unfold changed
  split
  · rename_i h c subscribed same
    obtain ⟨seen,-⟩ := sound.subscribed h subscribed
    split
    · exact placed
    rename_i behind
    rw [sound.changes,seen] at behind
    rw [if_neg (Ne.symm behind)]
    have shape : places f.connection = placesOf c.wire := by rw [same]; rfl
    have sorted := placed.sorted
    have bound := placed.bound
    rw [shape] at sorted bound
    have kept := @write_sorted f taken c.wire sorted bound (.status f.latest) fun s carried => (Option.some.inj carried).symm
    refine ⟨placed.handed,kept.1,kept.2,fun h known => ⟨f.latest.publishedAt,?_,?_⟩⟩
    · change _ ∈ (taken ++ placesOf (c.wire ++ [.status f.latest])).getLast?
      rw [placesOf_append,← List.append_assoc]
      exact List.getLast?_concat
    · rw [← Option.some.inj known]
  · exact placed

end Server

section Client

variable {py : PythonJson} {publishes : Bool}

/-- What the task hands over of an outcome besides a line. -/
theorem step_silent (c : SubscribeClient) {outcome : Outcome}
    (silent : ∀ content newline, outcome ≠ .line content newline) :
    (c.step py publishes outcome).2 = none := by
  cases outcome with
  | line content newline => exact absurd rfl (silent content newline)
  | connected | connectFailed => rfl
  | timedOut | connectionLost | slept =>
    unfold SubscribeClient.step
    dsimp only
    split <;> rfl

/-- A step of the client's task that keeps part of the connection, or none of it. -/
theorem await_sound (sound : f.Sound) {outcome : Outcome} {c : Option Connection}
    (wire : ∀ c', c = some c' → ∀ line ∈ c'.wire, ∀ s, line.carried = some s → Known f.published s)
    (asks : ∀ c', c = some c' → c'.asks = true → c'.wire = [] ∧ c'.closed = false)
    (kept : ∀ h, f.subscription = some h → ∃ c', c = some c' ∧ c'.asks = false ∧ c'.closed = false ∧
      FeedLine.refusal ∉ c'.wire) : (f.await py publishes outcome c).Sound := by
  unfold await
  dsimp only
  split
  · rename_i on
    exact {
      latest := sound.latest
      length := sound.length
      changes := sound.changes
      wire := wire
      waits := fun _ _ => on
      asks := asks
      subscribed := fun h known => ⟨(sound.subscribed h known).1,(sound.subscribed h known).2.1,kept h known⟩ }
  · exact {
      latest := sound.latest
      length := sound.length
      changes := sound.changes
      wire := fun c none_ => by cases none_
      waits := fun c none_ => by cases none_
      asks := fun c none_ => by cases none_
      subscribed := fun h none_ => by cases none_ }

/-- What was on the way is handed over, stays on the way, or is lost with the connection. -/
theorem await_placed (placed : f.Placed taken) {outcome : Outcome} {c : Option Connection} {more : List Nat}
    (handed : List.Forall₂ (Was f.published) more (f.client.step py publishes outcome).2.toList)
    (order : (more ++ places c).Sublist (places f.connection))
    (last : ∀ h, f.subscription = some h → (f.client.step py publishes outcome).1.Waits →
      more ++ places c = places f.connection) : (f.await py publishes outcome c).Placed (taken ++ more) := by
  have kept : (taken ++ more ++ places c).Sublist (taken ++ places f.connection) := by
    rw [List.append_assoc]
    exact order.append_left taken
  unfold await
  dsimp only
  split
  · rename_i on
    exact {
      handed := List.rel_append placed.handed handed
      sorted := placed.sorted.sublist kept
      bound := fun i among => placed.bound i (kept.subset among)
      current := fun h known => by
        rw [List.append_assoc,last h known on]
        exact placed.current h known }
  · have front : (taken ++ more ++ places none).Sublist (taken ++ more ++ places c) := by
      rw [places,Option.map_none,Option.getD_none,List.append_nil]
      exact List.sublist_append_left _ _
    exact {
      handed := List.rel_append placed.handed handed
      sorted := placed.sorted.sublist (front.trans kept)
      bound := fun i among => placed.bound i (kept.subset (front.subset among))
      current := fun h none_ => by cases none_ }

theorem await_silent (placed : f.Placed taken) {outcome : Outcome}
    (silent : ∀ content newline, outcome ≠ .line content newline) :
    (f.await py publishes outcome f.connection).Placed taken := by
  have nothing := @step_silent py publishes f.client outcome silent
  have kept := @await_placed f taken py publishes placed outcome f.connection [] (by rw [nothing]; exact .nil)
    (List.Sublist.refl _) fun _ _ _ => rfl
  rwa [List.append_nil] at kept

theorem await_connection_sound (sound : f.Sound) (outcome : Outcome) :
    (f.await py publishes outcome f.connection).Sound :=
  await_sound sound sound.wire sound.asks fun h known => (sound.subscribed h known).2.2

theorem connect_sound (sound : f.Sound) : (f.connect py publishes).Sound := by
  unfold connect
  split
  · rename_i connecting
    exact {
      latest := sound.latest
      length := sound.length
      changes := sound.changes
      wire := fun c known line among => by
        rw [← Option.some.inj known] at among
        exact absurd among List.not_mem_nil
      waits := fun c _ => by
        refine .inl ?_
        rw [SubscribeClient.step,if_pos connecting]
      asks := fun c known _ => by
        rw [← Option.some.inj known]
        exact ⟨rfl,rfl⟩
      subscribed := fun h none_ => by cases none_ }
  · exact sound

theorem connect_placed (placed : f.Placed taken) : (f.connect py publishes).Placed taken := by
  unfold connect
  split
  · have front : (taken ++ []).Sublist (taken ++ places f.connection) := (List.nil_sublist _).append_left taken
    exact {
      handed := placed.handed
      sorted := placed.sorted.sublist front
      bound := fun i among => placed.bound i (front.subset among)
      current := fun h none_ => by cases none_ }
  · exact placed

/-- A line on the way can be read. -/
theorem line_sound (sound : f.Sound) {c : Connection} (same : f.connection = some c) {line : FeedLine}
    (among : line ∈ c.wire) : line.Sound := fun s carried =>
  ⟨(sound.wire c same line among s carried).status,(sound.wire c same line among s carried).version⟩

theorem placesOf_cons (line : FeedLine) (wire : List FeedLine) :
    placesOf (line :: wire) = (line.carried.map (·.publishedAt)).toList ++ placesOf wire := by
  unfold placesOf
  rw [List.filterMap_cons]
  cases line.carried.map (·.publishedAt) <;> rfl

/-- The status handed over of a part of the next line is the one it carries. -/
theorem handed_place (reads : ReadsLines py) (sound : f.Sound) {line : FeedLine} {wire : List FeedLine}
    {asks closed : Bool}
    (same : f.connection = some ⟨line :: wire,asks,closed⟩) {content : List UInt8} {newline : Bool}
    (within : content <+: lineBytes line.text) (last : newline = true → content = lineBytes line.text) :
    ∃ more : List Nat, more.Sublist (line.carried.map (·.publishedAt)).toList ∧
      List.Forall₂ (Was f.published) more (f.client.step py publishes (.line content newline)).2.toList ∧
      ((f.client.step py publishes (.line content newline)).2 = line.carried.map (fun s => .object s.status) →
        more = (line.carried.map (·.publishedAt)).toList) := by
  have among : line ∈ line :: wire := List.mem_cons_self
  cases handed : (f.client.step py publishes (.line content newline)).2 with
  | none =>
    refine ⟨[],List.nil_sublist _,.nil,fun all => ?_⟩
    rw [Option.map_eq_none_iff.mp all.symm]
    rfl
  | some status =>
    obtain ⟨s,carried,rfl⟩ := FeedLine.handed_of_part reads (line_sound sound same among)
      (sound.waits _ same) within last handed
    rw [carried]
    exact ⟨[s.publishedAt],List.Sublist.refl _,
      .cons ⟨s.status,(sound.wire _ same line among s carried).at_,rfl⟩ .nil,fun _ => rfl⟩

theorem read_sound (sound : f.Sound) : (f.read py publishes).Sound := by
  unfold read
  split
  · rename_i line wire asks closed same
    refine await_sound sound (fun c known other among => ?_) (fun c known asking => ?_) fun h known => ?_
    · rw [← Option.some.inj known] at among
      exact sound.wire _ same other (List.mem_cons_of_mem _ among)
    · rw [← Option.some.inj known] at asking
      exact absurd (sound.asks _ same asking).1 (List.cons_ne_nil _ _)
    · obtain ⟨-,-,c,same',silent,open_,accepted⟩ := sound.subscribed h known
      rw [same] at same'
      obtain rfl := Option.some.inj same'
      exact ⟨_,rfl,silent,open_,fun among => accepted (List.mem_cons_of_mem _ among)⟩
  · exact sound

theorem read_placed (reads : ReadsLines py) (sound : f.Sound) (placed : f.Placed taken) :
    ∃ more, (f.read py publishes).Placed (taken ++ more) := by
  unfold read
  split
  · rename_i line wire asks closed same
    obtain ⟨more,part,handed,all⟩ := @handed_place f py publishes reads sound line wire asks closed same _ true
      List.prefix_rfl fun _ => rfl
    have shape : places f.connection = (line.carried.map (·.publishedAt)).toList ++ placesOf wire := by
      rw [same]
      exact placesOf_cons line wire
    refine ⟨more,await_placed placed handed (by rw [shape]; exact part.append_right _) fun h known on => ?_⟩
    obtain ⟨-,-,c,same',-,-,accepted⟩ := sound.subscribed h known
    rw [same] at same'
    obtain rfl := Option.some.inj same'
    have event : line ≠ .refusal := fun refused => accepted (refused ▸ List.mem_cons_self)
    rcases @FeedLine.handed_or_over line py publishes f.client true reads (line_sound sound same List.mem_cons_self)
      (sound.waits _ same) event with whole | ended
    · rw [all whole,shape]
      rfl
    · rcases on with greets | awaits
      · rw [SubscribeClient.running,greets] at ended
        cases ended
      · rw [SubscribeClient.running,awaits] at ended
        cases ended
  · exact ⟨[],by rw [List.append_nil]; exact placed⟩

/-- A connection that is closed has no subscription. -/
theorem closed_unsubscribed (sound : f.Sound) {c : Connection} (same : f.connection = some c)
    (closed : c.closed = true)
    (h : Subscription) : f.subscription ≠ some h := by
  intro known
  obtain ⟨-,-,c',same',-,open_,-⟩ := sound.subscribed h known
  rw [same] at same'
  rw [Option.some.inj same',open_] at closed
  cases closed

theorem ended_sound (sound : f.Sound) {wire : List FeedLine} {asks : Bool}
    (same : f.connection = some ⟨wire,asks,true⟩) (outcome : Outcome) :
    (f.await py publishes outcome (some ⟨[],asks,true⟩)).Sound := by
  refine await_sound sound (fun c known line among => ?_) (fun c known asking => ?_) fun h known => ?_
  · rw [← Option.some.inj known] at among
    exact absurd among List.not_mem_nil
  · rw [← Option.some.inj known] at asking
    exact absurd (sound.asks _ same asking).2 Bool.noConfusion
  · exact absurd known (closed_unsubscribed sound same rfl h)

theorem readEnd_sound (sound : f.Sound) (bytes : Nat) : (f.readEnd py publishes bytes).Sound := by
  unfold readEnd
  split
  · rename_i same
    exact ended_sound sound same _
  · rename_i same
    exact ended_sound sound same _
  · exact sound

theorem readEnd_placed (reads : ReadsLines py) (sound : f.Sound) (placed : f.Placed taken) (bytes : Nat) :
    ∃ more, (f.readEnd py publishes bytes).Placed (taken ++ more) := by
  unfold readEnd
  split
  · rename_i line wire asks same
    obtain ⟨more,part,handed,-⟩ := @handed_place f py publishes reads sound line wire asks true same _ false
      (List.take_prefix bytes _) Bool.noConfusion
    have shape : places f.connection = (line.carried.map (·.publishedAt)).toList ++ placesOf wire := by
      rw [same]
      exact placesOf_cons line wire
    refine ⟨more,await_placed placed handed ?_ fun h known => absurd known (closed_unsubscribed sound same rfl h)⟩
    rw [shape]
    exact part.append (List.nil_sublist _)
  · rename_i asks same
    refine ⟨[],await_placed placed ?_ (List.nil_sublist _) fun h known =>
      absurd known (closed_unsubscribed sound same rfl h)⟩
    have nothing : (f.client.step py publishes (.line [] false)).2 = none := by
      rcases sound.waits _ same with greets | awaits
      · rw [SubscribeClient.step,greets]
        rfl
      · rw [SubscribeClient.step,awaits]
        rfl
    rw [nothing]
    exact .nil
  · exact ⟨[],by rw [List.append_nil]; exact placed⟩

end Client

section Runs

variable {py : PythonJson} {publishes : Bool}

theorem step_sound (sound : f.Sound) (e : SubscriptionEvent) (good : f.Publishable e) :
    (f.step py publishes e).Sound := by
  cases e with
  | publish status => exact publish_sound sound good.1 good.2
  | restart => exact restart_sound sound
  | subscribe => exact subscribe_sound sound
  | refuse => exact refuse_sound sound
  | changed => exact changed_sound sound
  | keepalive => exact keepalive_sound sound
  | close => exact close_sound sound
  | read => exact read_sound sound
  | readEnd bytes => exact readEnd_sound sound bytes
  | connected => exact connect_sound sound
  | connectFailed => exact @await_connection_sound f py publishes sound .connectFailed
  | timedOut => exact @await_connection_sound f py publishes sound .timedOut
  | connectionLost => exact @await_connection_sound f py publishes sound .connectionLost
  | slept => exact @await_connection_sound f py publishes sound .slept

theorem step_placed (reads : ReadsLines py) (sound : f.Sound) (placed : f.Placed taken) (e : SubscriptionEvent) :
    ∃ more, (f.step py publishes e).Placed (taken ++ more) := by
  have still {g : SubscriptionFeed} (kept : g.Placed taken) : ∃ more, g.Placed (taken ++ more) :=
    ⟨[],by rw [List.append_nil]; exact kept⟩
  cases e with
  | publish status => exact still (publish_placed sound placed status)
  | restart => exact still (restart_placed sound placed)
  | subscribe => exact still (subscribe_placed placed)
  | refuse => exact still (refuse_placed sound placed)
  | changed => exact still (changed_placed sound placed)
  | keepalive => exact still (keepalive_placed placed)
  | close => exact still (close_placed placed)
  | read => exact read_placed reads sound placed
  | readEnd bytes => exact readEnd_placed reads sound placed bytes
  | connected => exact still (connect_placed placed)
  | connectFailed => exact still (@await_silent f taken py publishes placed .connectFailed fun _ _ => Outcome.noConfusion)
  | timedOut => exact still (@await_silent f taken py publishes placed .timedOut fun _ _ => Outcome.noConfusion)
  | connectionLost => exact still (@await_silent f taken py publishes placed .connectionLost fun _ _ => Outcome.noConfusion)
  | slept => exact still (@await_silent f taken py publishes placed .slept fun _ _ => Outcome.noConfusion)

/-- What every reachable state is. -/
structure Lawful (f : SubscriptionFeed) : Prop where
  sound : f.Sound
  placed : ∃ taken, f.Placed taken

theorem step_lawful (reads : ReadsLines py) (lawful : f.Lawful) (e : SubscriptionEvent) (good : f.Publishable e) :
    (f.step py publishes e).Lawful := by
  obtain ⟨sound,taken,placed⟩ := lawful
  obtain ⟨more,kept⟩ := @step_placed f taken py publishes reads sound placed e
  exact ⟨step_sound sound e good,_,kept⟩

theorem run_lawful (reads : ReadsLines py) {f : SubscriptionFeed} (lawful : f.Lawful)
    {events : List SubscriptionEvent}
    (good : Runs.Along (step py publishes) Publishable f events) : (Runs.run (step py publishes) f events).Lawful :=
  @Runs.Along.invariant _ _ _ _ Lawful (fun _ e before publishable => step_lawful reads before e publishable) _ _ lawful good

theorem start_lawful : start.Lawful := ⟨start_sound,[],start_placed⟩

/-- However the steps of ibctl, of the dashboard and of the network follow each other, the statuses that the
dashboard is handed are statuses that ibctl published, in the order in which it published them. -/
theorem handed_in_order (reads : ReadsLines py) {events : List SubscriptionEvent}
    (good : Runs.Along (step py publishes) Publishable start events) :
    ∃ places : List Nat, places.Pairwise (· ≤ ·) ∧
      List.Forall₂ (Was (Runs.run (step py publishes) start events).published) places
        (Runs.run (step py publishes) start events).handed := by
  obtain ⟨-,taken,placed⟩ := run_lawful reads start_lawful good
  exact ⟨taken,(List.pairwise_append.mp placed.sorted).1,placed.handed⟩

/-- When the server's task has seen the latest change and nothing is on the way, the dashboard has the latest
status. -/
theorem latest_of_quiet (lawful : f.Lawful) {h : Subscription} (subscribed : f.subscription = some h)
    (seen : h.seen = f.changes) (quiet : places f.connection = []) :
    f.handed.getLast? = some (.object f.latest.status) := by
  obtain ⟨sound,taken,placed⟩ := lawful
  obtain ⟨i,last,gap⟩ := placed.current h subscribed
  have version := (sound.subscribed h subscribed).1
  rw [sound.changes,version] at seen
  have top : i = f.latest.publishedAt := by omega
  rw [quiet,List.append_nil,← List.head?_reverse] at last
  have handed := List.forall₂_reverse_iff.mpr placed.handed
  rw [← List.head?_reverse]
  cases reversed : taken.reverse with
  | nil =>
    rw [reversed] at last
    cases last
  | cons j taken =>
    rw [reversed] at last handed
    cases Option.some.inj last
    cases statuses : f.handed.reverse with
    | nil =>
      rw [statuses] at handed
      cases handed
    | cons status handed_ =>
      rw [statuses] at handed
      obtain ⟨⟨members,at_,rfl⟩,-⟩ := List.forall₂_cons.mp handed
      rw [top,sound.latest.at_] at at_
      rw [Option.some.inj at_]
      rfl

/-- A line that fits is read, and the connection goes on. -/
theorem read_fits (reads : ReadsLines py) (sound : f.Sound) {h : Subscription} (subscribed : f.subscription = some h)
    {line : FeedLine} {wire : List FeedLine} {asks closed : Bool}
    (same : f.connection = some ⟨line :: wire,asks,closed⟩)
    (fits : line.Fits py publishes) : (f.read py publishes).connection = some ⟨wire,asks,closed⟩ ∧
      (f.read py publishes).subscription = some h ∧ (f.read py publishes).latest = f.latest ∧
      (f.read py publishes).changes = f.changes := by
  obtain ⟨-,-,c,same',-,-,accepted⟩ := sound.subscribed h subscribed
  rw [same] at same'
  obtain rfl := Option.some.inj same'
  have event : line ≠ .refusal := fun refused => accepted (refused ▸ List.mem_cons_self)
  have on := (@FeedLine.reads_on line py publishes f.client true reads (line_sound sound same List.mem_cons_self)
    (sound.waits _ same) event fits).2
  unfold read
  rw [same]
  dsimp only
  unfold await
  dsimp only
  rw [if_pos (.inr on)]
  exact ⟨rfl,subscribed,rfl,rfl⟩

/-- By induction on what is on the way. -/
theorem drained (reads : ReadsLines py) {f : SubscriptionFeed} (lawful : f.Lawful) {h : Subscription}
    (subscribed : f.subscription = some h) {wire : List FeedLine} {asks closed : Bool}
    (same : f.connection = some ⟨wire,asks,closed⟩) (fits : ∀ line ∈ wire, line.Fits py publishes) :
    ∃ g, Runs.run (step py publishes) f (List.replicate wire.length .read) = g ∧ g.Lawful ∧ g.subscription = some h ∧
      g.connection = some ⟨[],asks,closed⟩ ∧ g.latest = f.latest ∧ g.changes = f.changes := by
  induction wire generalizing f with
  | nil => exact ⟨f,rfl,lawful,subscribed,same,rfl,rfl⟩
  | cons line wire ih =>
    obtain ⟨connection,subscription,latest,changes⟩ :=
      read_fits reads lawful.sound subscribed same (fits line List.mem_cons_self)
    have next : (f.read py publishes).Lawful := @step_lawful _ py publishes reads lawful .read trivial
    obtain ⟨g,run,kept,subscribed',connected,latest',changes'⟩ := ih next subscription connection
      fun other among => fits other (List.mem_cons_of_mem _ among)
    exact ⟨g,run,kept,subscribed',connected,latest'.trans latest,changes'.trans changes⟩

/-- The server's task has looked at the channel. -/
theorem changed_seen (sound : f.Sound) {h : Subscription} (subscribed : f.subscription = some h) :
    ∃ h' c, f.changed.subscription = some h' ∧ h'.seen = f.changed.changes ∧ f.changed.connection = some c ∧
      f.changed.latest = f.latest := by
  obtain ⟨-,-,c,same,-⟩ := sound.subscribed h subscribed
  unfold changed
  rw [subscribed,same]
  dsimp only
  split
  · rename_i seen
    exact ⟨h,c,subscribed,seen,same,rfl⟩
  · split
    · exact ⟨_,c,rfl,rfl,rfl,rfl⟩
    · exact ⟨_,_,rfl,rfl,rfl,rfl⟩

/-- Whatever has happened, a connection that lives catches up: the server's task looks at the channel, the
dashboard reads what is on the way, and then it has the latest status, provided that the lines fit its
buffer. -/
theorem catches_up (reads : ReadsLines py) {events : List SubscriptionEvent}
    (good : Runs.Along (step py publishes) Publishable start events) {h : Subscription}
    (subscribed : (Runs.run (step py publishes) start events).subscription = some h)
    (fits : ∀ c, (Runs.run (step py publishes) start events).changed.connection = some c →
      ∀ line ∈ c.wire, line.Fits py publishes) :
    ∃ n, (Runs.run (step py publishes) start (events ++ .changed :: List.replicate n .read)).handed.getLast? =
      some (.object (Runs.run (step py publishes) start events).latest.status) := by
  have lawful := run_lawful reads start_lawful good
  obtain ⟨h',c,subscribed',seen,connected,latest⟩ := changed_seen lawful.sound subscribed
  have next : (Runs.run (step py publishes) start events).changed.Lawful :=
    @step_lawful _ py publishes reads lawful .changed trivial
  obtain ⟨g,run,kept,live,empty,latest',changes⟩ := drained reads next subscribed' connected (fits c connected)
  have quiet : places g.connection = [] := by rw [empty]; rfl
  refine ⟨c.wire.length,?_⟩
  rw [Runs.run_append,Runs.run_cons,← latest,← latest']
  change (Runs.run (step py publishes) (changed _) _).handed.getLast? = _
  rw [run]
  exact latest_of_quiet kept live (seen.trans changes.symm) quiet

end Runs

end SubscriptionFeed

end Invariant

section Example

open Classical in
/-- A reader of the documents that are written and of nothing else. -/
noncomputable def documentPython : PythonJson where
  loads line :=
    if written : ∃ members, Readable 127 (.object members) ∧ document (.object members) = line.toList then
      .ok (.object written.choose)
    else .error .jsonDecodeError
  dumpsRaises _ := none

theorem documentPython_ok {text : List Char} {doc : Json}
    (loaded : documentPython.loads (String.ofList text) = .ok doc) :
    ∃ members, Readable 127 (.object members) ∧ document (.object members) = text := by
  unfold documentPython at loaded
  dsimp only at loaded
  rw [String.toList_ofList] at loaded
  split at loaded
  · rename_i written
    exact written
  · cases loaded

theorem documentPython_reads : ReadsLines documentPython where
  whole := by
    intro members readable
    have written : ∃ others, Readable 127 (.object others) ∧ document (.object others) =
      document (.object members) :=
      ⟨members,readable,rfl⟩
    unfold documentPython
    dsimp only
    rw [String.toList_ofList,dif_pos written]
    obtain ⟨readable',same⟩ := written.choose_spec
    rw [Agent.document_whole readable readable' (same.symm ▸ List.prefix_rfl)]
  cut := by
    intro members text doc readable front loaded
    obtain ⟨others,readable',same⟩ := documentPython_ok loaded
    rw [← same] at front ⊢
    rw [Agent.document_whole readable readable' front]
  letter := by
    intro text doc loaded
    obtain ⟨members,-,same⟩ := documentPython_ok loaded
    obtain ⟨middle,braces⟩ := document_braces members
    rw [braces] at same
    exact absurd (List.cons.inj same).1 (by decide)

def loginStatus : List (String × Json) := [("state",.string "Login"),("ready",.bool false)]

def connectedStatus : List (String × Json) := [("state",.string "Connected"),("ready",.bool true)]

/-- The dashboard connects while ibctl logs in, and ibctl is connected before the first line is read. -/
def overtaken : List SubscriptionEvent := [.publish loginStatus,.connected,.subscribe,.publish connectedStatus]

/-- Then the connection breaks inside the second line. -/
def brokenLine : List SubscriptionEvent := overtaken ++ [.changed,.read,.close,.readEnd 20,.readEnd 0]

theorem brokenLine_in_order : ∃ places : List Nat, places.Pairwise (· ≤ ·) ∧
    List.Forall₂ (SubscriptionFeed.Was (Runs.run (SubscriptionFeed.step documentPython false) .start brokenLine).published) places
      (Runs.run (SubscriptionFeed.step documentPython false) .start brokenLine).handed :=
  SubscriptionFeed.handed_in_order documentPython_reads
    ⟨⟨SubscriptionFeed.readable_state "Login" false,by decide⟩,trivial,trivial,
      ⟨SubscriptionFeed.readable_state "Connected" true,by decide⟩,trivial,trivial,trivial,trivial,trivial,trivial⟩

theorem overtaken_catches_up : ∃ n, (Runs.run (SubscriptionFeed.step documentPython false) .start
    (overtaken ++ .changed :: List.replicate n .read)).handed.getLast? = some (.object connectedStatus) := by
  refine @SubscriptionFeed.catches_up documentPython false documentPython_reads overtaken
    ⟨⟨SubscriptionFeed.readable_state "Login" false,by decide⟩,trivial,trivial,
      ⟨SubscriptionFeed.readable_state "Connected" true,by decide⟩,trivial⟩
    ⟨1,1⟩ rfl ?_
  rintro c connected line among
  have lines : c.wire = [.snapshot ⟨loginStatus,1,1⟩,.status ⟨connectedStatus,2,2⟩] := by
    rw [← Option.some.inj connected]
    rfl
  rw [lines] at among
  rcases List.mem_pair.mp among with rfl | rfl
  · exact ⟨by decide +kernel,fun _ _ => Bool.noConfusion⟩
  · exact ⟨by decide +kernel,fun _ _ => Bool.noConfusion⟩

end Example

end Ibctl.Dashboard
