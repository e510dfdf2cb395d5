import AgentTower.Routing.AuditChain
import AgentTower.Routing.ApproveRace
import AgentTower.Routing.StampRace
import AgentTower.Routing.Addressing
import AgentTower.Routing.RoutesAudit
import AgentTower.Routing.Waiters
import AgentTower.Events.ExactlyOnce
import AgentTower.Events.PaneExited
import AgentTower.State.FirstOpen
import AgentTower.Agents.Tree
import AgentTower.Agents.RoleAudit
import AgentTower.Discovery.PaneScan
import AgentTower.App.AgentUpdate
import AgentTower.App.RegisterFromPane
import AgentTower.App.StoredText
import AgentTower.App.SendInput
import AgentTower.Events.StatusRace
import AgentTower.Events.JsonlOutbox
import AgentTower.App.Dashboard
import AgentTower.App.IdempotencyStore
import AgentTower.Events.EventPages
import AgentTower.Routing.SkipCounter
import AgentTower.Routing.AddRoute
import AgentTower.Logs.PipeHistory
import AgentTower.Logs.AuditRecords
import AgentTower.Events.Offsets
import AgentTower.Events.RotationEvents
import AgentTower.Routing.SkipReasons
import AgentTower.Routing.StalledRoute
import AgentTower.Logs.RedactedText
