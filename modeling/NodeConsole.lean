import NodeConsole.Inspect.Screen
import NodeConsole.Main
import NodeConsole.Proofs.App.Requests
import NodeConsole.Proofs.App.Startup
import NodeConsole.Proofs.Collector.Applications
import NodeConsole.Proofs.Collector.Newest
import NodeConsole.Proofs.Command.Settings
import NodeConsole.Proofs.Device.Dump
import NodeConsole.Proofs.Form.Arrangement
import NodeConsole.Proofs.Form.Lights
import NodeConsole.Proofs.Form.Prefill
import NodeConsole.Proofs.Form.Registration
import NodeConsole.Proofs.Input.Encoding
import NodeConsole.Proofs.Input.Queue
import NodeConsole.Proofs.KernelLog.Records
import NodeConsole.Proofs.Layout.Tiling
import NodeConsole.Proofs.Paint.Effect
import NodeConsole.Proofs.Paint.Printing
import NodeConsole.Proofs.Panel.Applications
import NodeConsole.Proofs.Screen.Body
import NodeConsole.Proofs.Screen.Notices
import NodeConsole.Proofs.Screen.Positions
import NodeConsole.Proofs.Time.Timestamps
import NodeConsole.Proofs.Wire.Absence
import NodeConsole.Proofs.Wire.Hardware
import NodeConsole.Proofs.Wire.Strictness
import NodeConsole.Proofs.Wire.Subnets
