import KdappCoordinator.Python.Json
import KdappCoordinator.Python.JsonLoads
import KdappCoordinator.Python.JsonDumps
import KdappCoordinator.Game.Board
import KdappCoordinator.Game.Moves
import KdappCoordinator.Coordinator.Agent
import KdappCoordinator.Game.Loop
import KdappCoordinator.Game.Invariants
import KdappCoordinator.Coordinator.ExecuteMove
import KdappCoordinator.Rpc.Channel
import KdappCoordinator.Coordinator.Startup
import KdappCoordinator.Coordinator.PlayGame
import KdappCoordinator.Rpc.Protocol
import KdappCoordinator.Coordinator.Outcomes
