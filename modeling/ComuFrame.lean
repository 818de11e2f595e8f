import ComuFrame.Lib.UnorderedMap
import ComuFrame.Lib.Run
import ComuFrame.Lib.Text
import ComuFrame.Lib.Arrivals
import ComuFrame.Lib.Subscript
import ComuFrame.Lib.Keyed
import ComuFrame.Fsm
import ComuFrame.Yaml
import ComuFrame.Multipart
import ComuFrame.DataBase.Basic
import ComuFrame.DataBase.Index
import ComuFrame.DataBase.Search
import ComuFrame.DataBase.Provide
import ComuFrame.DataBase.Answers
import ComuFrame.DataBase.Isolation
import ComuFrame.DataBase.Keys
import ComuFrame.Central.Basic
import ComuFrame.Central.Rounds
import ComuFrame.Central.Frames
import ComuFrame.Central.Arrivals
import ComuFrame.Central.Moves
import ComuFrame.Node.Basic
import ComuFrame.Node.Threads
import ComuFrame.System.Basic
import ComuFrame.System.Steps
import ComuFrame.System.Registration
import ComuFrame.System.Barrier
import ComuFrame.System.Requests
import ComuFrame.System.Subscriptions
import ComuFrame.Central.Registration
import ComuFrame.Central.Requests
import ComuFrame.Central.Subscriptions
import ComuFrame.Central.Replies
import ComuFrame.DataBase.Choices
import ComuFrame.DataBase.Minimal
import ComuFrame.DataBase.Catalogue
import ComuFrame.DataNode.Basic
import ComuFrame.DataNode.Store
import ComuFrame.DataNode.Queries
import ComuFrame.DataBase.Backtracking
import ComuFrame.Lib.Retry
import ComuFrame.Sending
import ComuFrame.System.Rejections
import ComuFrame.Lib.Progress
import ComuFrame.Node.Progress
import ComuFrame.System.Termination
import ComuFrame.Central.Branches
import ComuFrame.System.Faults
import ComuFrame.System.Alive
import ComuFrame.System.Completion
import ComuFrame.Central.Script
import ComuFrame.System.Transcript
import ComuFrame.Lib.Simulation
import ComuFrame.System.OneByOne
import ComuFrame.Lib.Meeting
import ComuFrame.System.Meeting
import ComuFrame.System.Provenance
import ComuFrame.System.Packets
import ComuFrame.System.Verdict
import ComuFrame.System.Exact
import ComuFrame.DataBase.Cost
import ComuFrame.System.Timer
import ComuFrame.System.Startup
import ComuFrame.System.Admission
