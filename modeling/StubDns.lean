import StubDns.Client
import StubDns.Server
import StubDns.Main
import StubDns.Proofs.Text.Pieces
import StubDns.Proofs.Text.Utf8Sequences
import StubDns.Proofs.Dns.NameReading
import StubDns.Proofs.Dns.QueryForms
import StubDns.Proofs.Dns.QueryStability
import StubDns.Proofs.Dns.NameWriting
import StubDns.Proofs.Dns.QueryRoundTrip
import StubDns.Proofs.Dns.RecordLookup
import StubDns.Proofs.Dns.Responses
import StubDns.Proofs.Network.Delivery
import StubDns.Proofs.Server.Steps
import StubDns.Proofs.Server.Agreement
import StubDns.Proofs.Dns.ResponseFormat
import StubDns.Proofs.Dns.Reencoding
import StubDns.Proofs.Server.CutDatagrams
import StubDns.Proofs.Settings.Layering
import StubDns.Proofs.Settings.Fields
import StubDns.Proofs.Config.Documents
import StubDns.Proofs.Config.Integers
import StubDns.Proofs.Server.Runs
import StubDns.Proofs.Text.AsciiLetters
import StubDns.Proofs.Dns.AskedNames
import StubDns.Proofs.Server.ReplySizes
import StubDns.Proofs.Settings.SmallKeys
import StubDns.Proofs.Config.Records
import StubDns.Proofs.Server.ConfiguredNames
import StubDns.Proofs.Dns.SecondReading
import StubDns.Proofs.Server.Forgetting
import StubDns.Proofs.CommandLine.GivenValues
import StubDns.Proofs.Client.FlagsOverFiles
import StubDns.Proofs.Settings.OwnValues
import StubDns.Proofs.Config.Layers
import StubDns.Proofs.Config.FileOverDefaults
import StubDns.Proofs.Dns.EmptyLabels
import StubDns.Proofs.Dns.DistinctQueries
import StubDns.Proofs.Dns.QueryBuffers
import StubDns.Proofs.Server.RepeatedReplies
import StubDns.Proofs.Dns.LetterCase
import StubDns.Proofs.Config.RecordOrder
import StubDns.Proofs.CommandLine.Pairs
import StubDns.Proofs.Client.Endings
import StubDns.Proofs.Dns.QueryPositions
import StubDns.Proofs.Text.ByteLiterals
import StubDns.Proofs.Client.PrintedReplies
import StubDns.Proofs.Settings.Placing
import StubDns.Proofs.Settings.AnyOrder
import StubDns.Proofs.Settings.DottedPaths
import StubDns.Proofs.Config.DefaultOrder
import StubDns.Proofs.Server.LogTexts
