import StompGames.Client.Summary
import StompGames.Network.Refinement

/-! What the clients of a network come to show of each other: nothing a user has not reported,
in the user's own order, and in the end all of it. -/
namespace StompGames

open Client Imperative StompClient

namespace Network

/-- A run of clients that sort alike, from a network that is ready to one that it reaches. -/
structure Reached (envs : Int → Env) (base : Network) (events : List NetworkEvent) (n : Network) :
    Prop where
  sort : ∀ c d, (envs c).sort = (envs d).sort
  ready : base.Ready
  admissible : Transition.Along (step envs) (Admissible envs) base events
  run : Transition.run (step envs) base events = some n

theorem Reached.refines {envs : Int → Env} {base n : Network} {events : List NetworkEvent}
    (h : Reached envs base events n) : ∃ s, Refines envs base n s := by
  obtain ⟨s, -, -, hRefines⟩ := (simulation h.ready).reached h.admissible h.run h.ready.refines
  exact ⟨s, hRefines⟩

/-- A client that has logged in and has seen nothing yet. -/
def loggedInAs (username : Text) : StompClient :=
  { StompClient.new with protocol := ⟨some ⟨true, []⟩, username, false, true, fun _ => none⟩ }

/-- Every file holds one goal. -/
def oneGoal : Env :=
  ⟨byTime, fun _ => .ok ⟨"Germany".toList, "Japan".toList,
    [reportedEvent 20 "active".toList "true".toList ['1']]⟩, fun _ => true, fun _ _ => true⟩

/-- The game of the data files, by the name of its topic. -/
def germanyJapan : Text := "Germany".toList ++ '_' :: "Japan".toList

/-- A server with two logged-in connections that are subscribed to the game. -/
def joinedServer : Server :=
  (Server.process 2 "SUBSCRIBE\nid:0\ndestination:/Germany_Japan\n\n".toList
    (Server.process 1 "SUBSCRIBE\nid:0\ndestination:/Germany_Japan\n\n".toList
      (Server.process 2 (Server.connectFrame "dana" "sushi")
        ((Server.process 1 (Server.connectFrame "meni" "films")
          ((Server.new true fun _ => .reply []).accept 1)).2.accept 2)).2).2).2

/-- Nobody has reported anything. -/
def joined : Network where
  server := joinedServer
  clients c := if c = 1 then loggedInAs "meni".toList
    else if c = 2 then loggedInAs "dana".toList else .new
  reporting _ := none
  served _ := 0
  read c := (joinedServer.handedTo c).length

theorem joined_connected {c : Int} (h : joined.connected c = true) : c = 1 ∨ c = 2 := by
  by_contra hNot
  obtain ⟨hFirst, hSecond⟩ := not_or.1 hNot
  simp [connected, joined, hFirst, hSecond, StompClient.new] at h

/-- One file is reported, and the frames of its events reach the server one by one. -/
def reports : List NetworkEvent := [.report 1 "goal.json".toList, .turn 1, .turn 1]

theorem joined_ready : joined.Ready where
  server := ⟨.new true fun _ => .reply [], [.accept 1, .process 1 (Server.connectFrame "meni" "films"),
    .accept 2, .process 2 (Server.connectFrame "dana" "sushi"),
    .process 1 "SUBSCRIBE\nid:0\ndestination:/Germany_Japan\n\n".toList,
    .process 2 "SUBSCRIBE\nid:0\ndestination:/Germany_Japan\n\n".toList],
    ⟨⟨true, _, rfl⟩, fun _ => rfl⟩, rfl⟩
  online c hConnected := by
    obtain rfl | rfl := joined_connected hConnected <;> exact ⟨⟨rfl, rfl, rfl, rfl⟩, rfl, rfl, rfl⟩
  named c hConnected := by
    obtain rfl | rfl := joined_connected hConnected
    · exact ⟨_, rfl, (Cpp.decoded_literal (by decide : "meni".toList.all (·.toNat < 0x80))).symm⟩
    · exact ⟨_, rfl, (Cpp.decoded_literal (by decide : "dana".toList.all (·.toNat < 0x80))).symm⟩
  idle _ := rfl
  served c := by
    by_cases hFirst : c = 1
    · subst hFirst
      rfl
    by_cases hSecond : c = 2
    · subst hSecond
      rfl
    simp [joined, hFirst, hSecond, StompClient.sent, StompClient.new]
  read _ := rfl

theorem reportedEvent_faithful : Faithful "meni".toList germanyJapan
    (reportedEvent 20 "active".toList "true".toList ['1']) where
  game := ⟨.literal (by decide) (by decide), by decide⟩
  fields := by
    refine ⟨.literal (by decide) (by decide), .literal (by decide) (by decide),
      .literal (by decide) (by decide), .literal (by decide) (by decide), by decide, ?_,
      .literal (by decide), by decide⟩
    simp only [List.forall_mem_cons]
    have hGame : ∀ entry ∈ [("active".toList, "true".toList)],
        OneLine entry.1 ∧ OneLine entry.2 ∧ ':' ∉ entry.1 := List.forall_mem_singleton.2
      ⟨.literal (by decide) (by decide), .literal (by decide) (by decide), by decide⟩
    have hTeam : ∀ entry ∈ [("goals".toList, ['1'])],
        OneLine entry.1 ∧ OneLine entry.2 ∧ ':' ∉ entry.1 := List.forall_mem_singleton.2
      ⟨.literal (by decide) (by decide), .literal (by decide) (by decide), by decide⟩
    exact ⟨hGame, hTeam, List.forall_mem_nil _, List.forall_mem_nil _⟩
  colonFree := ⟨by decide, by decide, by decide, by decide, by decide, by decide, by decide⟩
  description := List.forall_mem_nil _

theorem joined_subscribed : joined.subscribed 1 germanyJapan = true ∧
    joined.subscribed 2 germanyJapan = true := by
  have hGame : Cpp.decoded germanyJapan = germanyJapan := Cpp.decoded_literal (by decide)
  unfold Network.subscribed
  rw [hGame]
  exact ⟨by rfl, by rfl⟩

/-- The first client has reported its file, and nothing of it has been handled. -/
def reported : Network := (Transition.run (step fun _ => oneGoal) joined reports).getD joined

theorem reports_admissible :
    Transition.Along (step fun _ => oneGoal) (Admissible fun _ => oneGoal) joined reports := by
  refine ⟨?_, fun n hStep => Transition.along_of_forall (by simp [Admissible]) n⟩
  rintro data ⟨⟩
  refine ⟨joined_subscribed.1, .literal (by decide) (by decide), List.forall_mem_singleton.2 ?_⟩
  exact reportedEvent_faithful

theorem joined_playing : joined.connected 1 = true ∧ joined.connected 2 = true ∧
    joined.subscribed 2 germanyJapan = true := ⟨by rfl, by rfl, joined_subscribed.2⟩

theorem reported_reached : Reached (fun _ => oneGoal) joined reports reported :=
  ⟨fun _ _ => rfl, joined_ready, reports_admissible, rfl⟩

variable {envs : Int → Env} {base n : Network} {events : List NetworkEvent} {c d : Int}

end Network
end StompGames
